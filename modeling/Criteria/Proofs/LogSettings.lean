import Criteria.Log.Routing
import Mathlib.Data.List.Forall2

/-!
# Targets and settings

Whether a target stands below another one, which level a text asks for and whether traces are asked
for, told by the texts themselves.
-/

namespace Criteria.Log

def Under (target ancestor : String) : Prop :=
  target = ancestor ∨ ∃ rest : String, target = ancestor ++ "::" ++ rest

instance (target ancestor : String) : Decidable (Under target ancestor) :=
  decidable_of_iff (target = ancestor ∨ (ancestor ++ "::").toList <+: target.toList) <| by
    refine or_congr Iff.rfl ⟨?_, ?_⟩
    · rintro ⟨rest, eq⟩
      exact ⟨String.ofList rest, String.toList_injective (by simp [← eq])⟩
    · rintro ⟨rest, rfl⟩
      exact ⟨rest.toList, String.toList_append.symm⟩

theorem segments_ne_nil (target : List Char) : segments target ≠ [] := by
  induction target using segments.induct with
  | case1 rest ih => simp [segments]
  | case2 c rest plain first more eq ih => simp [segments, eq]
  | case3 c rest plain eq ih => simp [segments, eq]
  | case4 => simp [segments]

theorem segments_cons {c : Char} {rest : List Char}
    (plain : ∀ more, c = ':' → rest = ':' :: more → False) :
    segments (c :: rest) = (segments rest).modifyHead (c :: ·) := by
  rw [segments.eq_2 c rest plain]
  cases eq : segments rest with
  | nil => exact absurd eq (segments_ne_nil rest)
  | cons first more => rfl

theorem join_segments (target : List Char) : [':', ':'].intercalate (segments target) = target := by
  induction target using segments.induct with
  | case1 rest ih =>
    rw [segments, List.intercalate_cons_of_ne_nil (segments_ne_nil rest), ih]
    rfl
  | case2 c rest plain first more eq ih =>
    rw [segments_cons plain, eq, List.modifyHead_cons, List.intercalate_cons_cons_left, ← eq, ih]
  | case3 c rest plain eq ih => exact absurd eq (segments_ne_nil rest)
  | case4 => rfl

theorem segments_append (ancestor rest : List Char) (h : ancestor.getLast? ≠ some ':') :
    segments (ancestor ++ ':' :: ':' :: rest) = segments ancestor ++ segments rest := by
  induction ancestor using segments.induct with
  | case1 more ih =>
    have ends : more.getLast? ≠ some ':' := by
      cases more with
      | nil => exact absurd rfl h
      | cons c more => simpa using h
    rw [List.cons_append, List.cons_append, segments, segments, ih ends]
    rfl
  | case2 c more plain first others eq ih =>
    have ends : more.getLast? ≠ some ':' := by
      cases more with
      | nil => simp
      | cons d more => simpa using h
    -- the separator that follows must not begin with the last character of the ancestor
    have still : ∀ after, c = ':' → more ++ ':' :: ':' :: rest = ':' :: after → False := by
      intro after hc eq
      cases more with
      | nil => exact h (congrArg some hc)
      | cons d more => exact plain more hc (congrArg (· :: more) (List.cons.inj eq).1)
    rw [List.cons_append, segments_cons still, ih ends, segments_cons plain, eq]
    rfl
  | case3 c more plain eq ih => exact absurd eq (segments_ne_nil more)
  | case4 => rfl

theorem intercalate_append {between : List Char} {before after : List (List Char)}
    (hb : before ≠ []) (ha : after ≠ []) : between.intercalate (before ++ after) =
      between.intercalate before ++ between ++ between.intercalate after := by
  induction before with
  | nil => exact absurd rfl hb
  | cons first rest ih =>
    cases rest with
    | nil =>
      rw [List.singleton_append, List.intercalate_cons_of_ne_nil ha, List.intercalate_singleton]
    | cons second rest =>
      rw [List.cons_append, List.intercalate_cons_of_ne_nil (by simp), ih (by simp),
        List.intercalate_cons_cons]
      simp only [List.append_assoc]

/-- Segments of targets are a matter of the text alone, unless an ancestor ends in half a
separator. -/
theorem is_below_iff {target ancestor : String} (h : ancestor.toList.getLast? ≠ some ':') :
    isBelow target ancestor = true ↔ Under target ancestor := by
  rw [isBelow, List.isPrefixOf_iff_prefix, Under]
  constructor
  · rintro ⟨more, eq⟩
    have joined := join_segments target.toList
    rw [← eq] at joined
    cases more with
    | nil =>
      left
      rw [List.append_nil, join_segments] at joined
      exact String.toList_injective joined.symm
    | cons first others =>
      right
      refine ⟨String.ofList ([':', ':'].intercalate (first :: others)), ?_⟩
      apply String.toList_injective
      rw [← joined, intercalate_append (segments_ne_nil _) (List.cons_ne_nil first others),
        join_segments]
      simp
  · rintro (rfl | ⟨rest, rfl⟩)
    · exact List.prefix_rfl
    · have split := segments_append ancestor.toList rest.toList h
      refine ⟨segments rest.toList, ?_⟩
      rw [← split]
      simp

def Spells (text word : String) : Prop :=
  List.Forall₂ (fun c d => c = d ∨ c = d.toUpper) text.toList word.toList

def levelNames : List (String × Filter) :=
  [("off", none), ("error", some .error), ("warn", some .warn), ("debug", some .debug),
    ("trace", some .trace)]

inductive Asks : Option String → Filter → Prop where
  | absent : Asks none (some .info)
  | named {text word : String} {level : Filter} :
      (word, level) ∈ levelNames → Spells text word → Asks (some text) level
  | other {text : String} :
      (∀ name ∈ levelNames, ¬ Spells text name.1) → Asks (some text) (some .info)

theorem lower_eq_iff {c d : Char} (h : d.isUpper = false) :
    c.toLower = d ↔ c = d ∨ c = d.toUpper := by
  have hc := c.val.toNat_lt
  have hd := d.val.toNat_lt
  delta Char.isUpper at h
  delta Char.toLower Char.toUpper
  simp only [ge_iff_le, UInt32.le_iff_toNat_le, Char.reduceVal, UInt32.reduceToNat,
    decide_eq_false_iff_not] at h ⊢
  split <;> split <;>
    simp only [Char.ext_iff, ← UInt32.toNat_inj, UInt32.toNat_add, UInt32.toNat_sub,
      UInt32.reduceToNat] <;> omega

theorem lower_iff_spells (text word : String) (h : word.toList.any Char.isUpper = false) :
    text.toList.map Char.toLower = word.toList ↔ Spells text word := by
  unfold Spells
  generalize text.toList = cs
  generalize word.toList = ds at h ⊢
  induction ds generalizing cs with
  | nil => simp
  | cons d ds ih =>
    rw [List.any_cons, Bool.or_eq_false_iff] at h
    cases cs with
    | nil => simp
    | cons c cs =>
      rw [List.map_cons, List.cons.injEq, List.forall₂_cons, lower_eq_iff h.1,
        ih cs h.2]

theorem asks_of_setting (setting : Option String) : Asks setting (Filter.ofSetting setting) := by
  cases setting with
  | none => exact .absent
  | some text =>
    have off := lower_iff_spells text "off" rfl
    have error := lower_iff_spells text "error" rfl
    have warn := lower_iff_spells text "warn" rfl
    have debug := lower_iff_spells text "debug" rfl
    have trace := lower_iff_spells text "trace" rfl
    unfold Filter.ofSetting
    rw [Option.getD_some]
    split
    case h_1 eq => exact .named (by decide) (off.mp eq)
    case h_2 eq => exact .named (by decide) (error.mp eq)
    case h_3 eq => exact .named (by decide) (warn.mp eq)
    case h_4 eq => exact .named (by decide) (debug.mp eq)
    case h_5 eq => exact .named (by decide) (trace.mp eq)
    case h_6 notOff notError notWarn notDebug notTrace =>
      refine .other fun name member spells => ?_
      simp only [levelNames, List.mem_cons, List.not_mem_nil, or_false] at member
      rcases member with rfl | rfl | rfl | rfl | rfl
      · exact notOff (off.mpr spells)
      · exact notError (error.mpr spells)
      · exact notWarn (warn.mpr spells)
      · exact notDebug (debug.mpr spells)
      · exact notTrace (trace.mpr spells)

inductive Call where
  | explicit (settings : Settings)
  | environment

namespace Call

variable (environment : List (String × String))

def settings : Call → Settings
  | explicit settings => settings
  | Call.environment => .ofEnvironment environment

def levelText : Call → Option String
  | explicit settings => settings.level
  | Call.environment => environment.lookup "DOCMATCH_LOG_LEVEL"

def AsksForTraces : Call → Prop
  | explicit settings => settings.traces = true
  | Call.environment => ∃ text, environment.lookup "DOCMATCH_TRACE" = some text ∧
      (Spells text "1" ∨ Spells text "true" ∨ Spells text "yes")

theorem settings_level (c : Call) : (c.settings environment).level = c.levelText environment := by
  cases c <;> rfl

theorem traces_iff (c : Call) :
    (c.settings environment).traces = true ↔ c.AsksForTraces environment := by
  cases c with
  | explicit settings => exact Iff.rfl
  | environment =>
    unfold AsksForTraces
    simp only [settings, Settings.ofEnvironment, Bool.or_eq_true, beq_iff_eq,
      Option.map_eq_some_iff]
    cases environment.lookup "DOCMATCH_TRACE" with
    | none => simp
    | some text =>
      have one := lower_iff_spells text "1" rfl
      have yes := lower_iff_spells text "yes" rfl
      have truth := lower_iff_spells text "true" rfl
      simp only [← one, ← yes, ← truth, Option.some.injEq, exists_eq_left', or_assoc]
      exact Iff.rfl

end Call

end Criteria.Log
