import Criteria.Proofs.LogJournal

/-!
# Log files

Making files never writes into one, and writing never makes one. Once logging is configured, the
files of its loggers are there, so that a record ends up in exactly those files that it is routed
to, at their ends, and in no other.
-/

namespace Criteria.Log

namespace FileTree

/-- Files may have been made from one tree to the other, but none was written to or removed. -/
structure Grows (t u : FileTree) : Prop where
  contents : ∀ place, u.contents place = t.contents place
  files : ∀ place, t.hasFile place = true → u.hasFile place = true

namespace Grows

variable {t u v : FileTree}

theorem refl (t : FileTree) : t.Grows t := ⟨fun _ => rfl, fun _ h => h⟩

theorem trans (first : t.Grows u) (second : u.Grows v) : t.Grows v where
  contents place := (second.contents place).trans (first.contents place)
  files place h := second.files place (first.files place h)

theorem of_files (h : u.files = t.files) : t.Grows u := by
  refine ⟨fun place => ?_, fun place => ?_⟩
  · rw [FileTree.contents, h]
    rfl
  · rw [hasFile, hasFile, h]
    exact id

end Grows

variable (t : FileTree)

theorem lookup_of_missing {place : Place} (h : t.hasFile place = false) :
    t.files.lookup place = none := by
  rw [List.lookup_eq_none_iff]
  intro file member
  rw [hasFile, List.any_eq_false] at h
  have other : ¬ file.1 = place := fun eq => h file member (beq_iff_eq.mpr eq)
  exact bne_iff_ne.mpr (Ne.symm other)

theorem touch_grows (place : Place) : t.Grows (t.touch place) := by
  unfold touch
  cases there : t.hasFile place with
  | true => exact .refl t
  | false =>
    have missing := t.lookup_of_missing there
    refine ⟨fun q => ?_, fun q h => ?_⟩
    · simp only [contents, Bool.false_eq_true, if_false, List.lookup_append]
      by_cases hq : q = place
      · subst hq
        simp [missing]
      · simp [List.lookup_cons, beq_false_of_ne hq]
    · simp only [hasFile, Bool.false_eq_true, if_false, List.any_append]
      rw [hasFile] at h
      rw [h, Bool.true_or]

theorem touch_has_file (place : Place) : (t.touch place).hasFile place = true := by
  unfold touch
  cases there : t.hasFile place with
  | true => simp [there]
  | false => simp [hasFile]

variable {t}

theorem attempt_files {u : FileTree} {a : Attempt} (h : t.attempt? a = some u) :
    u.files = t.files := by
  obtain ⟨-, eq⟩ := Option.ite_none_right_eq_some.mp h
  cases eq
  rfl

theorem make_directory_files {u : FileTree} {place : Place} (h : t.makeDirectory? place = some u) :
    u.files = t.files := by
  cases place with
  | outside names => exact attempt_files h
  | inside names =>
    rw [makeDirectory?] at h
    split at h
    case isTrue => cases h
    case isFalse =>
      split at h <;> (cases h; rfl)

theorem make_names_files (t : FileTree) (place : Place) (names : List String) :
    (t.makeNames place names).1.files = t.files := by
  induction names generalizing t place with
  | nil => rfl
  | cons name rest ih =>
    simp only [makeNames]
    split
    case h_1 u made =>
      rw [ih]
      exact make_directory_files (Option.ite_none_right_eq_some.mp made).2
    case h_2 => rfl

theorem make_path_files (t : FileTree) (path : String) : (t.makePath path).1.files = t.files := by
  unfold makePath
  split
  · rfl
  · split
    · exact make_names_files ..
    · exact make_names_files ..

theorem open_file_grows {u : FileTree} {place : Place} (h : t.openFile? place = some u) :
    t.Grows u ∧ u.hasFile place = true := by
  cases place with
  | outside names =>
    obtain ⟨v, attempted, rfl⟩ := Option.map_eq_some_iff.mp h
    exact ⟨(Grows.of_files (attempt_files attempted)).trans (v.touch_grows _), v.touch_has_file _⟩
  | inside names =>
    rw [openFile?] at h
    split at h
    case isTrue => cases h
    case isFalse =>
      cases h
      exact ⟨t.touch_grows _, t.touch_has_file _⟩

theorem open_path_grows (t : FileTree) (path : String) : t.Grows (t.openPath path).1 := by
  have made : t.Grows (t.makePath (Path.parent path)).1 := .of_files (t.make_path_files _)
  unfold openPath
  split
  case h_1 u stopped =>
    rw [stopped] at made
    exact made
  case h_2 u done =>
    rw [done] at made
    split
    case h_1 v opened =>
      exact made.trans (open_file_grows (Option.ite_none_right_eq_some.mp opened).2).1
    case h_2 => exact made

theorem open_path_has_file (t : FileTree) {path : String} (h : (t.openPath path).2 = true) :
    (t.openPath path).1.hasFile (Path.place path) = true := by
  unfold openPath at h ⊢
  split at h
  case h_1 => cases h
  case h_2 u done =>
    split at h
    case h_1 v opened => exact (open_file_grows (Option.ite_none_right_eq_some.mp opened).2).2
    case h_2 => cases h

theorem open_paths_grows (t : FileTree) (paths : List String) : t.Grows (t.openPaths paths).1 := by
  induction paths generalizing t with
  | nil => exact .refl t
  | cons path rest ih =>
    have opened := t.open_path_grows path
    unfold openPaths
    split
    case h_1 u done =>
      rw [done] at opened
      exact opened.trans (ih u)
    case h_2 u stopped =>
      rw [stopped] at opened
      exact opened

theorem open_paths_has_files {paths : List String} (h : (t.openPaths paths).2 = true) :
    ∀ path ∈ paths, (t.openPaths paths).1.hasFile (Path.place path) = true := by
  induction paths generalizing t with
  | nil => simp
  | cons path rest ih =>
    unfold openPaths at h ⊢
    split at h
    case h_1 u done =>
      have first := t.open_path_has_file (congrArg Prod.snd done)
      rw [done] at first
      intro p member
      rcases List.mem_cons.mp member with rfl | later
      · exact (u.open_paths_grows rest).files _ first
      · exact ih h p later
    case h_2 => cases h

theorem lookup_append (t : FileTree) (record : Record) (place q : Place) :
    (t.append record place).files.lookup q =
      (t.files.lookup q).map fun records => if q = place then records ++ [record] else records := by
  unfold append
  induction t.files with
  | nil => rfl
  | cons file rest ih =>
    obtain ⟨name, records⟩ := file
    have named : (if name = place then (name, records ++ [record]) else (name, records)) =
        (name, if name = place then records ++ [record] else records) := by
      split <;> rfl
    rw [List.map_cons, named, List.lookup_cons, List.lookup_cons, ih]
    by_cases hq : q = name
    · subst hq
      simp
    · simp [beq_false_of_ne hq]

theorem append_has_file (t : FileTree) (record : Record) (place q : Place) :
    (t.append record place).hasFile q = t.hasFile q := by
  unfold append hasFile
  rw [List.any_map]
  refine congrArg _ (funext fun file => ?_)
  rw [Function.comp_apply]
  split <;> rfl

theorem append_contents {t : FileTree} {place : Place} (there : t.hasFile place = true)
    (record : Record) : (t.append record place).contents place = t.contents place ++ [record] := by
  obtain ⟨file, member, eq⟩ := List.any_eq_true.mp there
  have found : (t.files.lookup place).isSome := by
    refine List.lookup_isSome_iff.mpr ⟨file, member, ?_⟩
    rw [beq_iff_eq.mp eq]
    exact BEq.refl place
  obtain ⟨records, hr⟩ := Option.isSome_iff_exists.mp found
  rw [contents, contents, lookup_append, hr]
  simp

theorem append_contents_of_ne (t : FileTree) (record : Record) {place q : Place} (h : q ≠ place) :
    (t.append record place).contents q = t.contents q := by
  rw [contents, contents, lookup_append]
  simp only [if_neg h, Option.map_id']

theorem append_all_has_file (t : FileTree) (record : Record) (places : List Place) (q : Place) :
    (places.foldl (fun t place => t.append record place) t).hasFile q = t.hasFile q := by
  induction places generalizing t with
  | nil => rfl
  | cons place rest ih => rw [List.foldl_cons, ih, append_has_file]

theorem append_all_contents (t : FileTree) (record : Record) (places : List Place) (q : Place)
    (there : q ∈ places → t.hasFile q = true) :
    (places.foldl (fun t place => t.append record place) t).contents q =
      t.contents q ++ List.replicate (places.count q) record := by
  -- a place that is named twice gets the record twice
  induction places generalizing t with
  | nil => simp
  | cons place rest ih =>
    rw [List.foldl_cons, ih]
    · by_cases hq : q = place
      · subst hq
        rw [append_contents (there (List.mem_cons_self ..)), List.count_cons_self,
          List.replicate_succ, List.append_assoc, List.singleton_append]
      · rw [append_contents_of_ne t record hq, List.count_cons_of_ne (Ne.symm hq)]
    · intro member
      rw [append_has_file]
      exact there (List.mem_cons_of_mem _ member)

end FileTree

namespace Filter

theorem verbosity_max (f g : Filter) : (f.max g).verbosity = Max.max f.verbosity g.verbosity := by
  unfold Filter.max
  split <;> omega

theorem admits_of_le {f g : Filter} {level : Level} (h : f.admits level = true)
    (le : f.verbosity ≤ g.verbosity) : g.admits level = true := by
  unfold admits at h ⊢
  rw [decide_eq_true_eq] at h ⊢
  exact Nat.le_trans h le

end Filter

namespace Routing

variable (r : Routing) {target : String} {place : Place} {record : Record}

theorem mem_chain {l : Logger} (h : l ∈ r.chain target) : l ∈ r.loggers :=
  (List.mem_filter.mp (List.mem_mergeSort.mp h)).1

theorem verbosity_le_most_verbose :
    r.filter.verbosity ≤ r.mostVerbose.verbosity ∧
      ∀ l ∈ r.loggers, l.filter.verbosity ≤ r.mostVerbose.verbosity := by
  unfold mostVerbose
  generalize r.filter = f
  induction r.loggers generalizing f with
  | nil => simp
  | cons l rest ih =>
    have above := ih (f.max l.filter)
    rw [Filter.verbosity_max] at above
    simp only [List.foldl_cons, List.mem_cons, forall_eq_or_imp]
    refine ⟨?_, ?_, above.2⟩
    · exact Nat.le_trans (Nat.le_max_left ..) above.1
    · exact Nat.le_trans (Nat.le_max_right ..) above.1

/-- The ceiling of the most verbose filter never stops a record that a logger would let through. -/
theorem most_verbose_admits {level : Level} (h : r.enabled target level = true) :
    r.mostVerbose.admits level = true := by
  refine Filter.admits_of_le h ?_
  unfold filterFor
  cases first : r.chain target with
  | nil => exact r.verbosity_le_most_verbose.1
  | cons l above =>
    have member : l ∈ r.chain target := by
      rw [first]
      exact List.mem_cons_self ..
    exact r.verbosity_le_most_verbose.2 l (r.mem_chain member)

theorem mem_files_along {chain : List Logger} (h : place ∈ r.filesAlong chain) :
    place ∈ r.files ∨ ∃ l ∈ chain, place ∈ l.files := by
  induction chain with
  | nil => exact .inl h
  | cons l above ih =>
    rw [filesAlong, List.mem_append] at h
    rcases h with own | handed
    · exact .inr ⟨l, List.mem_cons_self .., own⟩
    · split at handed
      case isTrue =>
        rcases ih handed with top | ⟨k, member, file⟩
        · exact .inl top
        · exact .inr ⟨k, List.mem_cons_of_mem _ member, file⟩
      case isFalse => cases handed

theorem mem_destinations (h : place ∈ r.destinations record) :
    place ∈ r.files ∨ ∃ l ∈ r.loggers, place ∈ l.files := by
  unfold destinations at h
  split at h
  case isTrue =>
    rcases r.mem_files_along h with top | ⟨l, member, file⟩
    · exact .inl top
    · exact .inr ⟨l, r.mem_chain member, file⟩
  case isFalse => cases h

end Routing

namespace Logging

def Ready (l : Logging) : Prop :=
  ∀ r ∈ l.installed, ∀ record, ∀ place ∈ r.destinations record, l.files.hasFile place = true

def share (l : Logging) (place : Place) (records : List Record) : List Record :=
  records.flatMap fun record => List.replicate ((l.destinations record).count place) record

theorem write_of_not_installed {l : Logging} (h : l.installed = none) (record : Record) :
    l.write record = l := by
  refine write_of_disabled ?_
  rw [enabled, h, Option.any_none, Bool.and_false]

theorem write_all_of_not_installed {l : Logging} (h : l.installed = none) (records : List Record) :
    records.foldl write l = l := by
  induction records with
  | nil => rfl
  | cons record rest ih => rw [List.foldl_cons, write_of_not_installed h, ih]

theorem ready_of_not_installed {l : Logging} (h : l.installed = none) : l.Ready := by
  intro r hr
  rw [h] at hr
  cases hr

theorem write_has_file (l : Logging) (record : Record) (place : Place) :
    (l.write record).files.hasFile place = l.files.hasFile place :=
  l.files.append_all_has_file ..

theorem Ready.write {l : Logging} (h : l.Ready) (record : Record) : (l.write record).Ready := by
  intro r hr other place member
  rw [write_has_file]
  exact h r hr other place member

theorem Ready.write_contents {l : Logging} (h : l.Ready) (record : Record) (place : Place) :
    (l.write record).files.contents place =
      l.files.contents place ++ List.replicate ((l.destinations record).count place) record := by
  refine l.files.append_all_contents record _ place fun member => ?_
  unfold destinations at member
  split at member
  case isFalse => cases member
  case isTrue =>
    cases hr : l.installed with
    | none =>
      rw [hr] at member
      cases member
    | some r =>
      rw [hr] at member
      exact h r hr record place member

section Records

variable {l : Logging} (records : List Record)

theorem write_all_installed (l : Logging) :
    (records.foldl Logging.write l).installed = l.installed := by
  induction records generalizing l with
  | nil => rfl
  | cons record rest ih => exact ih _

theorem write_all_ceiling (l : Logging) :
    (records.foldl Logging.write l).ceiling = l.ceiling := by
  induction records generalizing l with
  | nil => rfl
  | cons record rest ih => exact ih _

theorem Ready.write_all (h : l.Ready) : (records.foldl Logging.write l).Ready := by
  induction records generalizing l with
  | nil => exact h
  | cons record rest ih => exact ih (h.write record)

/-- Records end up, in order, at the ends of the files that they are routed to. -/
theorem Ready.write_all_contents (h : l.Ready) (place : Place) :
    (records.foldl Logging.write l).files.contents place =
      l.files.contents place ++ l.share place records := by
  induction records generalizing l with
  | nil => simp [share]
  | cons record rest ih =>
    rw [List.foldl_cons, ih (h.write record), h.write_contents, share, share, List.flatMap_cons,
      List.append_assoc]
    rfl

end Records

section Configuring

variable (environment : List (String × String)) (s : Settings)

theorem prepare_grows (t : FileTree) : t.Grows (prepare environment s t).1 := by
  have made : t.Grows (t.makePath (s.directory.getD "")).1 := .of_files (t.make_path_files _)
  unfold prepare
  split
  case h_1 u stopped =>
    rw [stopped] at made
    exact made
  case h_2 u done =>
    rw [done] at made
    exact made.trans (u.open_paths_grows _)

variable {environment s}

theorem prepare_has_files {t : FileTree} (h : (prepare environment s t).2 = true) :
    ∀ name ∈ namesOf s,
      (prepare environment s t).1.hasFile (Path.place (pathOf environment s name)) = true := by
  unfold prepare at h ⊢
  split at h
  case h_1 => cases h
  case h_2 u done =>
    intro name member
    exact FileTree.open_paths_has_files h _ (List.mem_map_of_mem member)

/-- Records are routed to the files that are prepared and to no others. -/
theorem routing_destinations {record : Record} {place : Place}
    (h : place ∈ (routingOf environment s).destinations record) :
    ∃ name ∈ namesOf s, place = Path.place (pathOf environment s name) := by
  rcases Routing.mem_destinations _ h with top | ⟨l, member, file⟩
  · refine ⟨"app.log", by simp [namesOf], ?_⟩
    exact List.mem_singleton.mp top
  · simp only [routingOf, List.mem_cons, List.not_mem_nil, or_false] at member
    rcases member with rfl | rfl
    · refine ⟨"metrics.log", by simp [namesOf], ?_⟩
      exact List.mem_singleton.mp file
    · split at file
      case isTrue traced =>
        refine ⟨"trace.log", by simp [namesOf, traced], ?_⟩
        exact List.mem_singleton.mp file
      case isFalse => cases file

variable (environment s) (l : Logging)

theorem configure_files :
    (l.configure environment s).2.files = (prepare environment s l.files).1 := by
  unfold configure
  split
  case h_1 u stopped => rw [stopped]
  case h_2 u done =>
    rw [done]
    cases l.installed <;> rfl

theorem configure_done : (l.configure environment s).1 =
    ((prepare environment s l.files).2 && l.installed.isNone) := by
  unfold configure
  split
  case h_1 u stopped => rw [stopped, Bool.false_and]
  case h_2 u done =>
    rw [done]
    cases l.installed <;> rfl

theorem configure_installed : (l.configure environment s).2.installed =
    if (l.configure environment s).1 then some (routingOf environment s) else l.installed := by
  unfold configure
  split
  case h_1 u stopped => rfl
  case h_2 u done => cases l.installed <;> rfl

/-- The ceiling follows every attempt that gets as far as its files. -/
theorem configure_ceiling : (l.configure environment s).2.ceiling =
    if (prepare environment s l.files).2 then (routingOf environment s).mostVerbose
    else l.ceiling := by
  unfold configure
  split
  case h_1 u stopped => simp [stopped]
  case h_2 u done =>
    rw [done]
    cases l.installed <;> rfl

variable {l}

theorem Ready.configure (h : l.Ready) : (l.configure environment s).2.Ready := by
  intro r hr record place member
  rw [configure_files]
  rw [configure_installed] at hr
  split at hr
  case isTrue done =>
    rw [configure_done, Bool.and_eq_true] at done
    rw [← Option.mem_some.mp hr] at member
    obtain ⟨name, named, eq⟩ := routing_destinations member
    rw [eq]
    exact prepare_has_files done.1 name named
  case isFalse =>
    -- the loggers are those from before, and their files are still there
    exact (prepare_grows environment s l.files).files place (h r hr record place member)

end Configuring

end Logging

end Criteria.Log
