import HttpRouter.Expression.Parser
import HttpRouter.Path.Template
import HttpRouter.Proofs.Expression.Continuation.Flags

namespace HttpRouter

/-- The characters that a kind of capture takes. -/
def CaptureKind.admits : CaptureKind → Char → Bool
  | any, c => c ≠ '/'
  | int, c => c.isDigit
  | alpha, c => c.isAlpha || c == '_' || c == '-'
  | alphanumeric, c => c.isAlphanum || c == '_' || c == '-'
  | fragment, c => c ≠ '/'

/-- The class that a kind of capture repeats, as it is put together from its text. -/
def CaptureKind.cls : CaptureKind → CharClass
  | any => (.empty ∪ .single '/' : CharClass).compl
  | int => .empty ∪ .range '0' '9'
  | alpha => .empty ∪ .range 'a' 'z' ∪ .range 'A' 'Z' ∪ .single '_' ∪ .single '-'
  | alphanumeric =>
    .empty ∪ .range '0' '9' ∪ .range 'a' 'z' ∪ .range 'A' 'Z' ∪ .single '_' ∪ .single '-'
  | fragment => (.empty ∪ .single '/' : CharClass).compl

/-- The text of that class. -/
def CaptureKind.classText : CaptureKind → List Char
  | any => ['[', '^', '/', ']']
  | int => ['[', '0', '-', '9', ']']
  | alpha => ['[', 'a', '-', 'z', 'A', '-', 'Z', '_', '-', ']']
  | alphanumeric => ['[', '0', '-', '9', 'a', '-', 'z', 'A', '-', 'Z', '_', '-', ']']
  | fragment => ['[', '^', '/', ']']

/-- The depth of that class. -/
def CaptureKind.depth : CaptureKind → Nat
  | any => 0
  | int => 0
  | alpha => 1
  | alphanumeric => 1
  | fragment => 0

/-- A kind of capture is a lazy repetition of its class. -/
theorem CaptureKind.expression_eq (kind : CaptureKind) :
    kind.expression.toList = kind.classText ++ ['+', '?'] := by
  cases kind <;> rfl

theorem CharClass.mem_iff {a : CharClass} {c : Char} : c ∈ a ↔ a.contains c.toNat = true := Iff.rfl

theorem CharClass.contains_single {a : Char} {point : Nat} :
    (CharClass.single a).contains point = decide (point = a.toNat) := by
  rw [CharClass.single, Unicode.CodePointSet.single, Unicode.CodePointSet.contains_range,
    Bool.eq_iff_iff]
  simp only [Bool.and_eq_true, decide_eq_true_eq]
  omega

theorem isAlpha_iff_code (c : Char) :
    c.isAlpha = true ↔ 65 ≤ c.toNat ∧ c.toNat ≤ 90 ∨ 97 ≤ c.toNat ∧ c.toNat ≤ 122 := by
  change (decide (c.val ≥ 65 ∧ c.val ≤ 90) || c.val ≥ 97 && c.val ≤ 122) = true ↔ _
  simp [UInt32.le_iff_toNat_le]

/-- The class of a kind has the characters that the kind admits. -/
theorem CaptureKind.mem_cls (kind : CaptureKind) (c : Char) :
    c ∈ kind.cls ↔ kind.admits c = true := by
  have hchar : ∀ d : Char, c = d ↔ c.toNat = d.toNat := fun d => Char.toNat_inj.symm
  cases kind <;>
    simp [CharClass.mem_iff, cls, admits, Unicode.CodePointSet.contains_compl, CharClass.range,
      CharClass.contains_single, hchar, Char.isAlphanum, Char.isDigit_iff_toNat,
      isAlpha_iff_code]
  · omega
  · omega

/-- The class of a kind is not that of a single character. -/
theorem Expr.ofClass_cls (kind : CaptureKind) : Expr.ofClass kind.cls = .one kind.cls := by
  have honly : kind.cls.only? = none := by
    cases kind <;> cbv
  rw [Expr.ofClass, honly]

@[simp] theorem Flags.skip_default (s : List Char) : ({} : Flags).skip s = s := rfl

@[simp] theorem Flags.fold_default (a : CharClass) : ({} : Flags).fold a = a := rfl

/-- The class of a single character is the expression for that character. -/
theorem Expr.ofClass_single (c : Char) : Expr.ofClass (.single c) = .literal [c] := by
  have hranges : (CharClass.single c).ranges =
      [(0 + c.toNat, 0 + c.toNat + (c.toNat + 1 - c.toNat) - 1)] := rfl
  have hlast : 0 + c.toNat + (c.toNat + 1 - c.toNat) - 1 = 0 + c.toNat := by omega
  have honly : (CharClass.single c).only? = some c := by
    rw [CharClass.only?, hranges, hlast]
    simp [Char.ofNat_toNat]
  rw [Expr.ofClass, honly]

namespace ParseState

/-- Taking the tokens of a text in one state leads to another state, whatever follows the text. -/
def Reads (state : ParseState) (s : List Char) (state' : ParseState) : Prop :=
  ∃ k, k ≤ s.length ∧ ∀ fuel tail,
    readAll (fuel + k) state (s ++ tail) = readAll fuel state' tail

theorem Reads.nil (state : ParseState) : Reads state [] state :=
  ⟨0, Nat.le_refl 0, fun _ _ => rfl⟩

theorem Reads.trans {a b c : ParseState} {s t : List Char} (hfirst : Reads a s b)
    (hsecond : Reads b t c) : Reads a (s ++ t) c := by
  obtain ⟨m, hm, hfirst⟩ := hfirst
  obtain ⟨n, hn, hsecond⟩ := hsecond
  refine ⟨n + m, by simp only [List.length_append]; omega, fun fuel tail => ?_⟩
  rw [← Nat.add_assoc, List.append_assoc, hfirst, hsecond]

/-- A run that reads a token takes it and goes on with what follows. -/
theorem readAll_eq_ok_of_read {state final : ParseState} {fuel : Nat} {s rest : List Char}
    {token : Token} (hread : Token.read state.flags s = .ok (some (token, rest))) :
    readAll (fuel + 1) state s = .ok final ↔
      ∃ next, state.take token = .ok next ∧ readAll fuel next rest = .ok final := by
  rw [readAll, hread]
  change (state.take token >>= fun next => readAll fuel next rest) = .ok final ↔ _
  exact bind_eq_ok

/-- Reading one token. -/
theorem Reads.token {state state' : ParseState} {s : List Char} {token : Token} (hs : s ≠ [])
    (hread : ∀ tail, Token.read state.flags (s ++ tail) = .ok (some (token, tail)))
    (htake : state.take token = .ok state') : Reads state s state' := by
  refine ⟨1, List.length_pos_iff.mpr hs, fun fuel tail => ?_⟩
  rw [readAll, hread tail]
  simp only [bind, Except.bind, htake]

/-- Every run that begins with the tokens of a text and comes to an end without an error is, once it
    has taken those tokens, in a state of the given kind. -/
def Passes (state : ParseState) (s : List Char) (after : ParseState → Prop) : Prop :=
  ∀ ⦃fuel : Nat⦄ ⦃tail : List Char⦄ ⦃final : ParseState⦄, s.length ≤ fuel →
    readAll fuel state (s ++ tail) = .ok final →
    ∃ between left, after between ∧ fuel ≤ left + s.length ∧
      readAll left between tail = .ok final

theorem Passes.of_reads {state state' : ParseState} {s : List Char} {after : ParseState → Prop}
    (h : Reads state s state') (hafter : after state') : Passes state s after := by
  intro fuel tail final hfuel hrun
  obtain ⟨k, hk, h⟩ := h
  refine ⟨state', fuel - k, hafter, by omega, ?_⟩
  rwa [← h, Nat.sub_add_cancel (by omega)]

/-- Passing a text whose first token is known, whatever follows the text. -/
theorem Passes.token {state : ParseState} {s rest : List Char} {token : Token}
    {after : ParseState → Prop} (hlt : rest.length < s.length)
    (hread : ∀ tail, Token.read state.flags (s ++ tail) = .ok (some (token, rest ++ tail)))
    (hnext : ∀ next, state.take token = .ok next → Passes next rest after) :
    Passes state s after := by
  intro fuel tail final hfuel hrun
  obtain _ | fuel := fuel
  · omega
  · obtain ⟨next, htake, hrun⟩ := (readAll_eq_ok_of_read (hread tail)).mp hrun
    obtain ⟨between, left, hafter, hleft, hrun⟩ := hnext next htake (by omega) hrun
    exact ⟨between, left, hafter, by omega, hrun⟩

/-- A run that has come to the end of its text takes no more tokens. -/
theorem readAll_nil (fuel : Nat) (state : ParseState) : readAll fuel state [] = .ok state := by
  cases fuel with
  | zero => rfl
  | succ fuel =>
    have hread : Token.read state.flags [] = .ok none := by
      rw [Token.read, Flags.skip_nil]
    rw [readAll, hread]
    rfl

/-- A run that is finished is outside of all groups, and its expression is that of the group under
    way. -/
theorem finish_eq_ok {state : ParseState} {e : Expr} (h : state.finish = .ok e) :
    state.outer = [] ∧ state.group.close.expr = e := by
  rw [finish] at h
  split at h
  · cases h
  · rename_i houter
    dsimp only at h
    split at h
    · cases h
      exact ⟨houter, rfl⟩
    · cases h

/-- What holds of the state past a text holds of the last state of a run through it alone. -/
theorem Passes.final {state final : ParseState} {s : List Char} {after : ParseState → Prop}
    {fuel : Nat} (h : Passes state s after) (hfuel : s.length ≤ fuel)
    (hrun : readAll fuel state s = .ok final) : after final := by
  rw [← List.append_nil s] at hrun
  obtain ⟨between, left, hafter, -, hrun⟩ := h hfuel hrun
  rw [readAll_nil] at hrun
  cases hrun
  exact hafter

/-- A text that reads through, with nothing behind it, is all that a run takes. -/
theorem Reads.final {state final : ParseState} {s : List Char} {fuel : Nat}
    (h : Reads state s final) (hfuel : s.length ≤ fuel) : readAll fuel state s = .ok final := by
  obtain ⟨k, hk, h⟩ := h
  have hrun := h (fuel - k) []
  rw [Nat.sub_add_cancel (by omega), List.append_nil, readAll_nil] at hrun
  exact hrun

theorem Passes.mono {state : ParseState} {s : List Char} {after after' : ParseState → Prop}
    (h : Passes state s after) (himp : ∀ next, after next → after' next) :
    Passes state s after' := by
  intro fuel tail final hfuel hrun
  obtain ⟨next, left, hnext, hleft⟩ := h hfuel hrun
  exact ⟨next, left, himp next hnext, hleft⟩

theorem Passes.trans {state : ParseState} {s t : List Char} {between after : ParseState → Prop}
    (hfirst : Passes state s between) (hsecond : ∀ next, between next → Passes next t after) :
    Passes state (s ++ t) after := by
  intro fuel tail final hfuel hrun
  rw [List.length_append] at hfuel
  rw [List.append_assoc] at hrun
  obtain ⟨next, left, hnext, hleft, hrun⟩ := hfirst (by omega) hrun
  obtain ⟨last, left', hlast, hleft', hrun⟩ := hsecond next hnext (by omega) hrun
  exact ⟨last, left', hlast, by rw [List.length_append]; omega, hrun⟩

theorem Reads.passes {state state' : ParseState} {s t : List Char} {after : ParseState → Prop}
    (hfirst : Reads state s state') (hsecond : Passes state' t after) :
    Passes state (s ++ t) after := by
  have hfirst : Passes state s (· = state') := .of_reads hfirst rfl
  refine hfirst.trans ?_
  rintro next rfl
  exact hsecond

/-- The state with the meanings of characters added to the current row. -/
def pushAll (state : ParseState) (exprs : List Expr) : ParseState :=
  { state with group := { state.group with
    row := (exprs.map fun e => some ⟨e, 0⟩).reverse ++ state.group.row } }

theorem pushAll_pushAll (state : ParseState) (es fs : List Expr) :
    (state.pushAll es).pushAll fs = state.pushAll (es ++ fs) := by
  simp [pushAll]

/-- A literal character is no sign of any other kind. -/
theorem read_literal {c : Char} (hplain : c ∉ metaCharacters) (tail : List Char) :
    Token.read {} (c :: tail) = .ok (some (.atom (.literal [c]) 0, tail)) := by
  simp only [metaCharacters, List.mem_cons, List.not_mem_nil, or_false, not_or] at hplain
  have hatom : (Atom.literal c false).toExpr {} = .ok (.literal [c]) := by
    simp [Atom.toExpr, Expr.ofClass_single]
  rw [Token.read.eq_def]
  simp only [Flags.skip_default]
  split <;> simp_all [bind, Except.bind, pure, Except.pure]

/-- A backslash before a sign gives the character itself. -/
theorem read_escaped {c : Char} (hmeta : c ∈ metaCharacters) (tail : List Char) :
    Token.read {} ('\\' :: c :: tail) = .ok (some (.atom (.literal [c]) 0, tail)) := by
  have hescape : Atom.readEscape {} (c :: tail) = .ok (.literal c false, tail) := by
    simp only [metaCharacters, List.mem_cons, List.not_mem_nil, or_false] at hmeta
    rcases hmeta with h | h | h | h | h | h | h | h | h | h | h | h | h | h | h | h | h | h <;>
      subst h <;> rfl
  have hatom : (Atom.literal c false).toExpr {} = .ok (.literal [c]) := by
    simp [Atom.toExpr, Expr.ofClass_single]
  rw [Token.read.eq_def]
  simp only [Flags.skip_default]
  simp [hescape, hatom, bind, Except.bind, pure, Except.pure]

/-- Reading an atom without depth. -/
theorem Reads.atom {state : ParseState} {s : List Char} {e : Expr} (hflags : state.flags = {})
    (hs : s ≠ []) (hread : ∀ tail, Token.read {} (s ++ tail) = .ok (some (.atom e 0, tail))) :
    Reads state s (state.pushAll [e]) := by
  have htake : state.take (.atom e 0) = .ok (state.pushAll [e]) := rfl
  refine .token hs ?_ htake
  rw [hflags]
  exact hread

/-- Quoted text reads as the characters of the text. -/
theorem reads_quote (state : ParseState) (hflags : state.flags = {}) (text : List Char) :
    Reads state (quote text) (state.pushAll (text.map fun c => .literal [c])) := by
  induction text generalizing state with
  | nil => exact .nil state
  | cons c rest ih =>
    have hrest := ih (state.pushAll [.literal [c]]) hflags
    rw [pushAll_pushAll] at hrest
    by_cases hmeta : c ∈ metaCharacters
    · have hquote : quote (c :: rest) = ['\\', c] ++ quote rest := by
        simp [quote, hmeta]
      rw [hquote]
      exact Reads.trans (.atom hflags (by simp) (read_escaped hmeta)) hrest
    · have hquote : quote (c :: rest) = [c] ++ quote rest := by
        simp [quote, hmeta]
      rw [hquote]
      exact Reads.trans (.atom hflags (by simp) (read_literal hmeta)) hrest

/-- A slash reads as a slash. -/
theorem reads_slash (state : ParseState) (hflags : state.flags = {}) :
    Reads state ['/'] (state.pushAll [.literal ['/']]) :=
  .atom hflags (by simp) (read_literal (by decide))

/-- The caret reads as the start of the text. -/
theorem reads_caret (state : ParseState) (hflags : state.flags = {}) :
    Reads state ['^'] (state.pushAll [.look .textStart]) :=
  .atom hflags (by simp) fun _ => rfl

/-- The dollar sign reads as the end of the text. -/
theorem reads_dollar (state : ParseState) (hflags : state.flags = {}) :
    Reads state ['$'] (state.pushAll [.look .textEnd]) :=
  .atom hflags (by simp) fun _ => rfl

/-- The class of a kind of capture is read from its text. -/
theorem read_classText (kind : CaptureKind) (tail : List Char) :
    Token.read {} (kind.classText ++ tail) =
      .ok (some (.atom (.one kind.cls) (kind.depth + 1), tail)) := by
  rw [← Expr.ofClass_cls kind]
  cases kind <;> rfl

/-- The names of template captures are letters and digits, and no digit comes first. -/
def IsPlainName (name : List Char) : Prop :=
  (∀ c ∈ name, c.isAlphanum = true) ∧ ∃ first ∈ name.head?, first.isDigit = false

theorem readName_plain {name : List Char} (hname : IsPlainName name) (rest : List Char) :
    Token.readName (name ++ '>' :: rest) = .ok (.ofList name, rest) := by
  obtain ⟨hall, first, hfirst, hdigit⟩ := hname
  obtain _ | ⟨c, name⟩ := name
  · cases hfirst
  · obtain rfl : c = first := by simpa using hfirst
    have hend : ∀ d ∈ c :: name, d ≠ '>' := by
      intro d hd heq
      have halphanum := hall d hd
      rw [heq] at halphanum
      cases halphanum
    have hspan : (c :: name ++ '>' :: rest).span (· ≠ '>') = (c :: name, '>' :: rest) := by
      have hpos : ∀ d ∈ c :: name, (decide (d ≠ '>')) = true := by simpa using hend
      rw [List.span_eq_takeWhile_dropWhile, List.takeWhile_append_of_pos hpos,
        List.dropWhile_append_of_pos hpos]
      simp
    have hstart : Token.isNameStart c = true := by
      have hc := hall c (by simp)
      simp only [Char.isAlphanum, hdigit, Bool.or_false] at hc
      simp [Token.isNameStart, hc]
    have hrest : name.all Token.isNameRest = true := by
      rw [List.all_eq_true]
      intro d hd
      have hd := hall d (by simp [hd])
      rw [Char.isAlphanum, Bool.or_eq_true] at hd
      obtain hd | hd := hd <;> simp [Token.isNameRest, Token.isNameStart, hd]
    rw [Token.readName, hspan]
    simp [hstart, hrest]

/-- The state after a capture. -/
def pushCapture (state : ParseState) (name : List Char) (kind : CaptureKind) : ParseState :=
  { state with
    captures := state.captures + 1
    names := .ofList name :: state.names
    group := { state.group with row := some ⟨.capture (state.captures + 1) (some (.ofList name))
      (.repeat 1 none false (.one kind.cls)), kind.depth + 3⟩ :: state.group.row } }

/-- The state within the group of a capture, with the row read so far. -/
def inCapture (state : ParseState) (name : List Char) (row : List (Option Piece)) : ParseState :=
  { flags := {}
    captures := state.captures + 1
    names := .ofList name :: state.names
    group := { row }
    outer := ⟨state.group, .capturing (some (.ofList name)), state.captures + 1, {}⟩ ::
      state.outer }

/-- The text of the group of a capture. -/
def captureText (name : List Char) (kind : CaptureKind) : List Char :=
  ['(', '?', 'P', '<'] ++ name ++ ['>'] ++ kind.expression.toList ++ [')']

theorem read_openCapture {name : List Char} (hname : IsPlainName name) (tail : List Char) :
    Token.read {} (['(', '?', 'P', '<'] ++ name ++ ['>'] ++ tail) =
      .ok (some (.openGroup (.capturing (some (.ofList name))) {}, tail)) := by
  have hgroup : Token.readGroup {} ('?' :: 'P' :: '<' :: (name ++ '>' :: tail)) =
      .ok (.openGroup (.capturing (some (.ofList name))) {}, tail) := by
    rw [Token.readGroup]
    simp [readName_plain hname, bind, Except.bind, pure, Except.pure]
  rw [Token.read.eq_def]
  simp [hgroup, Except.map]

/-- The group of a capture reads as a lazy repetition of the class of its kind. -/
theorem reads_capture (state : ParseState) (hflags : state.flags = {}) {name : List Char}
    (hname : IsPlainName name) (kind : CaptureKind)
    (hnew : String.ofList name ∉ state.names) :
    Reads state (captureText name kind) (state.pushCapture name kind) := by
  -- The group is under way with its own empty row, while the group around it waits.
  have hopen : Reads state (['(', '?', 'P', '<'] ++ name ++ ['>']) (state.inCapture name []) := by
    refine .token (by simp) (fun tail => by rw [hflags]; exact read_openCapture hname tail) ?_
    simp [take, hnew, hflags, inCapture]
  have hclass : Reads (state.inCapture name []) kind.classText
      (state.inCapture name [some ⟨.one kind.cls, kind.depth + 1⟩]) :=
    .token (by cases kind <;> simp [CaptureKind.classText]) (read_classText kind) rfl
  have hrepeat : Reads (state.inCapture name [some ⟨.one kind.cls, kind.depth + 1⟩]) ['+', '?']
      (state.inCapture name [some ⟨.repeat 1 none false (.one kind.cls), kind.depth + 2⟩]) := by
    have hread : ∀ tail, Token.read {} (['+', '?'] ++ tail) =
        .ok (some (.repetition 1 none false, tail)) := fun _ => rfl
    exact .token (by simp) hread rfl
  have hclose : Reads
      (state.inCapture name [some ⟨.repeat 1 none false (.one kind.cls), kind.depth + 2⟩]) [')']
      (state.pushCapture name kind) := by
    have hread : ∀ tail, Token.read {} ([')'] ++ tail) = .ok (some (.closeGroup, tail)) :=
      fun _ => rfl
    refine .token (by simp) hread ?_
    rw [pushCapture, hflags]
    rfl
  have hreads := ((hopen.trans hclass).trans hrepeat).trans hclose
  simpa [captureText, CaptureKind.expression_eq] using hreads

/-- A run that gets past the group of a capture has not met its name before. -/
theorem passes_capture (state : ParseState) (hflags : state.flags = {}) {name : List Char}
    (hname : IsPlainName name) (kind : CaptureKind) :
    Passes state (captureText name kind) (· = state.pushCapture name kind) := by
  by_cases hknown : String.ofList name ∈ state.names
  · have hread : ∀ tail, Token.read state.flags (captureText name kind ++ tail) =
        .ok (some (.openGroup (.capturing (some (.ofList name))) {},
          kind.expression.toList ++ [')'] ++ tail)) := by
      intro tail
      have htext : captureText name kind ++ tail =
          ['(', '?', 'P', '<'] ++ name ++ ['>'] ++ (kind.expression.toList ++ [')'] ++ tail) := by
        simp [captureText]
      rw [hflags, htext]
      exact read_openCapture hname _
    have hlt : (kind.expression.toList ++ [')']).length < (captureText name kind).length := by
      simp [captureText]
      omega
    refine .token hlt hread fun next htake => ?_
    have hrefused : state.take (.openGroup (.capturing (some (.ofList name))) {}) =
        .error (.groupNameRepeated (.ofList name)) := by
      simp [take, hknown]
    rw [hrefused] at htake
    cases htake
  · exact .of_reads (reads_capture state hflags hname kind hknown) rfl

end ParseState

end HttpRouter
