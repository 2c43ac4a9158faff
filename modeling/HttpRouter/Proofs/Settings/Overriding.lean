import HttpRouter.Assoc
import HttpRouter.Http.Token
import HttpRouter.Proofs.LastWrite
import HttpRouter.Proofs.Text.Integers
import HttpRouter.Settings.Basic

namespace HttpRouter.Settings

open Text

/-- Variables that may override settings, by their full names. -/
abbrev Layer : Type := String → Option String

/-- The truth values by their spellings. -/
def spellings : List (String × Bool) :=
  [("1", true), ("true", true), ("yes", true), ("on", true),
    ("0", false), ("false", false), ("no", false), ("off", false), ("", false)]

/-- The truth value that a text spells, in any letter case and with blanks around it. -/
def spelled? (raw : String) : Option Bool :=
  Assoc.find? (Http.lowerCase (trim raw)) spellings

/-- The number that a text writes in digits, with or without a plus sign in front and with blanks
    around it, if it can be held in 64 bits. -/
def written? (raw : String) : Option Nat :=
  let digits := withoutPlus (trim raw).toList
  if AreDigits digits ∧ decimalValue digits ≤ 2 ^ 64 - 1 then some (decimalValue digits) else none

/-- The table of spellings tells every truth value that is read. -/
theorem truth?_eq_spelled? (raw : String) : truth? raw = spelled? raw := by
  rw [truth?, spelled?, Http.lowerCase]
  generalize (trim raw).toList.map Char.toLower = cs
  split
  iterate 9 rfl
  rename_i hone htrue hyes hon hzero hfalse hno hoff hblank
  rw [eq_comm, Assoc.find?_eq_none_iff]
  simpa [spellings, ← String.toList_inj] using
    ⟨hone, htrue, hyes, hon, hzero, hfalse, hno, hoff, hblank⟩

/-- Reads the text of a truth value. -/
def readDebug (raw : String) : Except RouterError Bool :=
  match truth? raw with
  | some debug => .ok debug
  | none => .error (.settings ("SWITCHYARD_DEBUG: not a boolean: " ++ raw))

/-- Reads the text of a number of milliseconds. -/
def readLookupBudget (raw : String) : Except RouterError Nat :=
  match IntegerType.u64.read (trim raw) with
  | .ok n => .ok n.toNat
  | .error reason => .error (.settings ("SWITCHYARD_GUARD_TIMEOUT_MS: " ++ reason.message))

theorem toOption_readDebug (raw : String) : (readDebug raw).toOption = spelled? raw := by
  rw [← truth?_eq_spelled?, readDebug]
  cases truth? raw <;> rfl

theorem toOption_readLookupBudget (raw : String) :
    (readLookupBudget raw).toOption = written? raw := by
  have hgreatest : IntegerType.u64.greatest = 2 ^ 64 - 1 := rfl
  have hmap : (readLookupBudget raw).toOption =
      (IntegerType.u64.read (trim raw)).toOption.map Int.toNat := by
    rw [readLookupBudget]
    cases IntegerType.u64.read (trim raw) <;> rfl
  rw [hmap, IntegerType.toOption_read IntegerType.u64 rfl, hgreatest, written?]
  dsimp only
  split
  · rw [Option.map_some, Int.toNat_natCast]
  · rfl

namespace Layer

/-- Whether a layer has a text for the truth value that spells none. -/
def misspellsDebug (layer : Layer) : Bool :=
  (layer (variableName "DEBUG")).any fun raw => (spelled? raw).isNone

/-- Whether a layer has a text for the number of milliseconds that writes none. -/
def misspellsLookupBudget (layer : Layer) : Bool :=
  (layer (variableName "GUARD_TIMEOUT_MS")).any fun raw => (written? raw).isNone

/-- Whether a layer has a wrong value. -/
def isWrong (layer : Layer) : Bool :=
  layer.misspellsDebug || layer.misspellsLookupBudget

/-- What an error tells of a layer: that the truth value is wrong, or, only if it is not, that the
    number of milliseconds is. -/
inductive Reports (layer : Layer) : RouterError → Prop
  | debug {raw : String} (hraw : layer (variableName "DEBUG") = some raw)
      (hwrong : spelled? raw = none) :
      Reports layer (.settings ("SWITCHYARD_DEBUG: not a boolean: " ++ raw))
  | lookupBudget {raw : String} {reason : IntegerError} (hdebug : layer.misspellsDebug = false)
      (hraw : layer (variableName "GUARD_TIMEOUT_MS") = some raw) (hwrong : written? raw = none)
      (hreason : IntegerType.u64.read (trim raw) = .error reason) :
      Reports layer (.settings ("SWITCHYARD_GUARD_TIMEOUT_MS: " ++ reason.message))

theorem Reports.isWrong {layer : Layer} {e : RouterError} (h : layer.Reports e) :
    layer.isWrong = true := by
  cases h with
  | debug hraw hwrong => simp [Layer.isWrong, misspellsDebug, hraw, hwrong]
  | lookupBudget hdebug hraw hwrong hreason =>
    simp [Layer.isWrong, misspellsLookupBudget, hraw, hwrong]

/-- There is one error that tells what is wrong with a layer. -/
theorem Reports.unique {layer : Layer} {e e' : RouterError} (h : layer.Reports e)
    (h' : layer.Reports e') : e' = e := by
  cases h with
  | debug hraw hwrong =>
    cases h' with
    | debug hraw' hwrong' =>
      rw [hraw] at hraw'
      cases hraw'
      rfl
    | lookupBudget hdebug hraw' hwrong' hreason' =>
      simp [misspellsDebug, hraw, hwrong] at hdebug
  | lookupBudget hdebug hraw hwrong hreason =>
    cases h' with
    | debug hraw' hwrong' => simp [misspellsDebug, hraw', hwrong'] at hdebug
    | lookupBudget hdebug' hraw' hwrong' hreason' =>
      rw [hraw] at hraw'
      cases hraw'
      rw [hreason] at hreason'
      cases hreason'
      rfl

/-- The base path that a layer sets. -/
def mount? (layer : Layer) : Option String :=
  layer (variableName "BASE_PATH")

/-- The truth value that a layer sets. -/
def debug? (layer : Layer) : Option Bool :=
  (layer (variableName "DEBUG")).bind spelled?

/-- The number of milliseconds that a layer sets. -/
def lookupBudget? (layer : Layer) : Option Nat :=
  (layer (variableName "GUARD_TIMEOUT_MS")).bind written?

end Layer

/-- The settings after a layer, which changes nothing if it is wrong. -/
def overrideOrKeep (settings : Settings) (layer : Layer) : Settings :=
  (settings.override layer).toOption.getD settings

/-- The settings after layers, one after the other. -/
def overrideAll (settings : Settings) (layers : List Layer) : Settings :=
  layers.foldl overrideOrKeep settings

/-- The settings with the values that a layer sets. -/
def updated (settings : Settings) (layer : Layer) : Settings where
  mount := layer.mount?.getD settings.mount
  debug := layer.debug?.getD settings.debug
  lookupBudget := layer.lookupBudget?.getD settings.lookupBudget

/-- Overriding reads the truth value first and the number of milliseconds after it. -/
theorem override_eq (settings : Settings) (layer : Layer) :
    settings.override layer =
      ((layer (variableName "DEBUG")).elim (.ok settings.debug) readDebug).bind fun debug =>
        ((layer (variableName "GUARD_TIMEOUT_MS")).elim (.ok settings.lookupBudget)
          readLookupBudget).bind fun lookupBudget =>
            .ok { mount := layer.mount?.getD settings.mount, debug, lookupBudget } := by
  unfold override readDebug readLookupBudget
  dsimp only
  cases layer (variableName "DEBUG") with
  | none =>
    cases layer (variableName "GUARD_TIMEOUT_MS") with
    | none => rfl
    | some number =>
      dsimp only [Option.elim_some]
      cases IntegerType.u64.read (trim number) <;> rfl
  | some text =>
    dsimp only [Option.elim_some]
    cases truth? text with
    | none => rfl
    | some debug =>
      cases layer (variableName "GUARD_TIMEOUT_MS") with
      | none => rfl
      | some number =>
        dsimp only [Option.elim_some]
        cases IntegerType.u64.read (trim number) <;> rfl

/-- A variable that is missing leaves a field, one with the text of a value sets it, and one with any
    other text is an error. -/
theorem field_cases {Value : Type} {read : String → Except RouterError Value}
    {value? : String → Option Value} (hread : ∀ raw, (read raw).toOption = value? raw)
    (text? : Option String) (start : Value) :
    text?.any (fun raw => (value? raw).isNone) = false ∧
        text?.elim (.ok start) read = .ok ((text?.bind value?).getD start) ∨
      ∃ raw e, text? = some raw ∧ value? raw = none ∧ read raw = .error e := by
  cases text? with
  | none => exact .inl ⟨rfl, rfl⟩
  | some raw =>
    have hvalue := hread raw
    cases hraw : read raw with
    | ok value =>
      rw [hraw] at hvalue
      refine .inl ⟨?_, ?_⟩
      · rw [Option.any_some, ← hvalue]
        rfl
      · rw [Option.elim_some, Option.bind_some, hraw, ← hvalue]
        rfl
    | error e =>
      rw [hraw] at hvalue
      exact .inr ⟨raw, e, rfl, hvalue.symm, hraw⟩

/-- A layer without a wrong value sets all its values, and another one is reported. -/
theorem override_cases (settings : Settings) (layer : Layer) :
    layer.isWrong = false ∧ settings.override layer = .ok (settings.updated layer) ∨
      layer.isWrong = true ∧ ∃ e, layer.Reports e ∧ settings.override layer = .error e := by
  rw [override_eq]
  obtain ⟨hspelled, hdebug⟩ | ⟨raw, e, hraw, hwrong, hread⟩ :=
    field_cases toOption_readDebug (layer (variableName "DEBUG")) settings.debug
  · rw [hdebug]
    obtain ⟨hwritten, hbudget⟩ | ⟨raw, e, hraw, hwrong, hread⟩ :=
      field_cases toOption_readLookupBudget (layer (variableName "GUARD_TIMEOUT_MS"))
        settings.lookupBudget
    · rw [hbudget]
      refine .inl ⟨?_, rfl⟩
      rw [Layer.isWrong, Layer.misspellsDebug, Layer.misspellsLookupBudget, hspelled, hwritten]
      rfl
    · have hreports : layer.Reports e := by
        rw [readLookupBudget] at hread
        split at hread
        · cases hread
        · rename_i reason hreason
          cases hread
          exact .lookupBudget hspelled hraw hwrong hreason
      rw [hraw, Option.elim_some, hread]
      exact .inr ⟨hreports.isWrong, e, hreports, rfl⟩
  · have hreports : layer.Reports e := by
      rw [readDebug] at hread
      split at hread
      · cases hread
      · cases hread
        exact .debug hraw hwrong
    rw [hraw, Option.elim_some, hread]
    exact .inr ⟨hreports.isWrong, e, hreports, rfl⟩

/-- An error of a layer tells what is wrong with it, and no other error does. -/
theorem override_eq_error_iff (settings : Settings) (layer : Layer) (e : RouterError) :
    settings.override layer = .error e ↔ layer.Reports e := by
  constructor
  · intro hoverride
    obtain ⟨-, hsound⟩ | ⟨-, e', hreports, herror⟩ := settings.override_cases layer
    · rw [hsound] at hoverride
      cases hoverride
    · rw [herror] at hoverride
      cases hoverride
      exact hreports
  · intro hreports
    obtain ⟨hwrong, -⟩ | ⟨-, e', hreports', herror⟩ := settings.override_cases layer
    · rw [hreports.isWrong] at hwrong
      cases hwrong
    · rw [herror, hreports.unique hreports']

theorem overrideOrKeep_eq (settings : Settings) (layer : Layer) :
    settings.overrideOrKeep layer = if layer.isWrong then settings else settings.updated layer := by
  rw [overrideOrKeep]
  obtain ⟨hwrong, hoverride⟩ | ⟨hwrong, e, -, hoverride⟩ := settings.override_cases layer
  · rw [hoverride, hwrong]
    rfl
  · rw [hoverride, hwrong]
    rfl

/-- The layers with a wrong value are left out, and all others set their values. -/
theorem overrideAll_eq (settings : Settings) (layers : List Layer) :
    settings.overrideAll layers =
      (layers.filter fun layer => !layer.isWrong).foldl updated settings := by
  rw [overrideAll, List.foldl_filter]
  congr 1
  funext settings layer
  rw [overrideOrKeep_eq]
  cases layer.isWrong <;> rfl

/-- A layer that is applied again sets the same values again. -/
theorem overrideOrKeep_overrideOrKeep (settings : Settings) (layer : Layer) :
    (settings.overrideOrKeep layer).overrideOrKeep layer = settings.overrideOrKeep layer := by
  have hagain : ∀ {Value : Type} (set? : Option Value) (start : Value),
      set?.getD (set?.getD start) = set?.getD start := by
    rintro Value (_ | value) start <;> rfl
  simp only [overrideOrKeep_eq]
  split
  · rfl
  · simp only [updated, hagain]

/-- Settings are overridden by layers one after the other, and kept at a layer that is an error. That
    is so exactly if the layer has a text for the truth value that spells none, or one for the number
    of milliseconds that writes none, and the first of the two is the one reported. The layers with an
    error might as well be missing. Every field ends with what the last of the others sets it to, or
    as it was if none of them sets it, and a layer applied twice in a row is as good as applied
    once. -/
theorem overrideAll_layers (settings : Settings) (layers : List Layer) :
    let sound := layers.filter fun layer => !layer.isWrong
    (∀ layer : Layer,
      ((∃ e, settings.override layer = .error e) ↔ layer.isWrong = true) ∧
        ∀ e, settings.override layer = .error e ↔ layer.Reports e) ∧
    settings.overrideAll layers = settings.overrideAll sound ∧
    settings.overrideAll layers =
      { mount := (lastWrite? Layer.mount? sound).getD settings.mount
        debug := (lastWrite? Layer.debug? sound).getD settings.debug
        lookupBudget := (lastWrite? Layer.lookupBudget? sound).getD settings.lookupBudget } ∧
    ∀ before layer after, settings.overrideAll (before ++ layer :: layer :: after) =
      settings.overrideAll (before ++ layer :: after) := by
  intro sound
  refine ⟨fun layer => ⟨?_, settings.override_eq_error_iff layer⟩, ?_, ?_, ?_⟩
  · obtain ⟨hwrong, hsound⟩ | ⟨hwrong, e, -, herror⟩ := settings.override_cases layer
    · simp [hwrong, hsound]
    · simp [hwrong, herror]
  · rw [overrideAll_eq, overrideAll_eq, List.filter_filter]
    simp only [Bool.and_self]
  · have hmount := foldl_lastWrite updated mount Layer.mount? (fun _ _ => rfl) sound settings
    have hdebug := foldl_lastWrite updated debug Layer.debug? (fun _ _ => rfl) sound settings
    have hbudget :=
      foldl_lastWrite updated lookupBudget Layer.lookupBudget? (fun _ _ => rfl) sound settings
    rw [overrideAll_eq, ← hmount, ← hdebug, ← hbudget]
  · intro before layer after
    simp only [overrideAll, List.foldl_append, List.foldl_cons, overrideOrKeep_overrideOrKeep]

-- The second layer is left out with its base path.
example :
    ({} : Settings).overrideAll [
        fun name => if name = variableName "DEBUG" then some " Yes\t" else none,
        fun name => if name = variableName "BASE_PATH" then some "/app"
          else if name = variableName "GUARD_TIMEOUT_MS" then some "-1" else none,
        fun name => if name = variableName "GUARD_TIMEOUT_MS" then some "+0250 " else none] =
      { debug := true, lookupBudget := 250 } := by
  decide +kernel

end HttpRouter.Settings
