import HttpRouter.Controllers.Resource
import HttpRouter.Proofs.Path.Segments

namespace HttpRouter

/-- A slash separates the segments before it from those behind it, unless nothing is before it. -/
theorem Template.segments_append_slash {base : String} (hbase : base ≠ "") (rest : String) :
    segments (base ++ ("/" ++ rest)) =
      segments base ++ (rest.toList.splitOn '/').map Segment.read := by
  have helements : elements (base.toList ++ '/' :: rest.toList) =
      elements base.toList ++ rest.toList.splitOn '/' := by
    have hsome : base.toList ≠ [] := by simpa using hbase
    generalize base.toList = front at hsome
    rw [elements.eq_def, elements.eq_def]
    split
    · rename_i tail heq
      obtain _ | ⟨c, front⟩ := front
      · exact absurd rfl hsome
      · rw [List.cons_append, List.cons.injEq] at heq
        obtain ⟨rfl, rfl⟩ := heq
        exact List.splitOn_append_cons_self _ _
    · rename_i hother
      split
      · exact absurd rfl (hother _)
      · exact List.splitOn_append_cons_self _ _
  rw [segments, segments, ← List.map_append, ← helements]
  simp [String.toList_append]

namespace Segment

/-- Pieces that fit the segments of templates and make up the same path are the same. -/
theorem eq_of_fits {template other : String} {pieces others : List (List Char)}
    (hpieces : List.Forall₂ Fits (Template.segments template) pieces)
    (hothers : List.Forall₂ Fits (Template.segments other) others)
    (hpath : pieces.flatMap ('/' :: ·) = others.flatMap ('/' :: ·)) : pieces = others := by
  obtain ⟨rest, hrest, -, hsplit⟩ := (exists_pieces_iff (p := (· = pieces))).mp
    ⟨pieces, hpieces, rfl, rfl⟩
  obtain ⟨rest', hrest', -, hsplit'⟩ := (exists_pieces_iff (p := (· = others))).mp
    ⟨others, hothers, rfl, rfl⟩
  rw [hpath, hrest', List.cons.injEq] at hrest
  rw [← hsplit, ← hsplit', hrest.2]

/-- Pieces that fit one row behind another are those that fit the first and then those that fit the
    second. -/
theorem forall₂_fits_append {segments later : List Segment} {pieces : List (List Char)} :
    List.Forall₂ Fits (segments ++ later) pieces ↔ ∃ front back, pieces = front ++ back ∧
      List.Forall₂ Fits segments front ∧ List.Forall₂ Fits later back := by
  constructor
  · intro hfits
    induction segments generalizing pieces with
    | nil => exact ⟨[], pieces, rfl, .nil, hfits⟩
    | cons segment segments ih =>
      obtain _ | ⟨hpiece, hfits⟩ := hfits
      obtain ⟨front, back, rfl, hfront, hback⟩ := ih hfits
      exact ⟨_ :: front, back, rfl, .cons hpiece hfront, hback⟩
  · rintro ⟨front, back, rfl, hfront, hback⟩
    exact List.rel_append hfront hback

/-- The entries of one row behind another one are those of the first and then those of the second. -/
theorem entries_append {segments : List Segment} {pieces : List (List Char)}
    (hlength : segments.length = pieces.length) (later : List Segment) (others : List (List Char)) :
    entries (segments ++ later) (pieces ++ others) =
      entries segments pieces ++ entries later others := by
  rw [entries, List.zip_append hlength, List.filterMap_append]
  rfl

end Segment

/-- The parameters that a template without fragments takes of a path are those of the pieces that fit
    its segments. -/
theorem Pattern.params?_eq_some_iff {template : String} {pattern : Pattern}
    (hcompile : compile template "" = .ok pattern)
    (hfree : ∀ segment ∈ Template.segments template, ¬segment.IsFragment) {path : String}
    {params : Params} :
    pattern.params? path = some params ↔
      ∃ pieces, List.Forall₂ Segment.Fits (Template.segments template) pieces ∧
        path.toList = pieces.flatMap ('/' :: ·) ∧
        params.entries = Segment.entries (Template.segments template) pieces := by
  have hconfined : ∀ segment ∈ Template.segments ("" ++ template), segment.Confined := by
    intro segment hsegment
    rw [String.empty_append] at hsegment
    cases segment with
    | fragment text => exact absurd trivial (hfree _ hsegment)
    | literal text => trivial
    | capture name kind => trivial
  obtain ⟨rows, hlaid⟩ := laidOut_of_compile hcompile hconfined
  rw [String.empty_append] at hlaid
  constructor
  · exact hlaid.exists_pieces hfree
  · rintro ⟨pieces, hfits, hpath, hentries⟩
    have hmatch := (hlaid.isMatch_iff hfree).mpr ⟨pieces, hfits, hpath⟩
    obtain ⟨found, hsearch⟩ := Option.isSome_iff_exists.mp hmatch
    obtain ⟨params', hparams'⟩ : ∃ params', pattern.params? path = some params' := by
      rw [params?, hsearch]
      exact ⟨_, rfl⟩
    obtain ⟨pieces', hfits', hpath', hentries'⟩ := hlaid.exists_pieces hfree hparams'
    have hsame : pieces' = pieces := Segment.eq_of_fits hfits' hfits (hpath'.symm.trans hpath)
    rw [hparams', Option.some_inj]
    rw [hsame, ← hentries] at hentries'
    exact congrArg Params.mk hentries'

/-- A number as it stands in a path. -/
structure IsNumber (digits : String) : Prop where
  ne_empty : digits ≠ ""
  isDigit : ∀ c ∈ digits.toList, c.isDigit = true

namespace ResourceAction

/-- A word and the number of a record. -/
def numbered (word : String) : List Segment :=
  [.literal word.toList, .capture "id".toList .int]

/-- The segments that an action adds to those of its resource. -/
def segments : ResourceAction → List Segment
  | index => []
  | create => [.literal "add".toList]
  | read => numbered "view"
  | update => numbered "edit"
  | destroy => numbered "delete"

/-- A suffix adds its own segments, and takes none from the template before it. -/
theorem segments_append_suffix {base : String} (hbase : base ≠ "") (action : ResourceAction) :
    Template.segments (base ++ action.suffix) = Template.segments base ++ action.segments := by
  cases action with
  | index => simp [suffix, segments]
  | create => exact Template.segments_append_slash hbase "add"
  | read => exact Template.segments_append_slash hbase "view/int:id"
  | update => exact Template.segments_append_slash hbase "edit/int:id"
  | destroy => exact Template.segments_append_slash hbase "delete/int:id"

/-- A text with the number of a record behind it, which is a parameter. -/
def Numbered (front tail : String) (entries : List (String × String)) : Prop :=
  ∃ digits, IsNumber digits ∧ tail = front ++ digits ∧ entries = [("id", digits)]

/-- What a path that asks for an action has behind the path of the resource, and the parameters in
    it. -/
def Tail (tail : String) (entries : List (String × String)) : ResourceAction → Prop
  | index => tail = "" ∧ entries = []
  | create => tail = "/add" ∧ entries = []
  | read => Numbered "/view/" tail entries
  | update => Numbered "/edit/" tail entries
  | destroy => Numbered "/delete/" tail entries

/-- The pieces that fit a word and the number of a record. -/
theorem fits_numbered_iff {word : String} {pieces : List (List Char)} :
    List.Forall₂ Segment.Fits (numbered word) pieces ↔
      ∃ digits, IsNumber digits ∧ pieces = [word.toList, digits.toList] := by
  constructor
  · intro hfits
    obtain _ | ⟨hword, _ | ⟨⟨hne, hdigits⟩, _ | _⟩⟩ := hfits
    rename_i piece digits
    refine ⟨.ofList digits, ⟨?_, ?_⟩, ?_⟩
    · simpa using hne
    · simpa [CaptureKind.admits] using hdigits
    · rw [hword, String.toList_ofList]
  · rintro ⟨digits, hdigits, rfl⟩
    refine .cons rfl (.cons ⟨?_, ?_⟩ .nil)
    · simpa using hdigits.ne_empty
    · exact hdigits.isDigit

theorem numbered_iff {word front tail : String} {entries : List (String × String)}
    (hfront : front.toList = '/' :: (word.toList ++ ['/'])) :
    Numbered front tail entries ↔ ∃ pieces, List.Forall₂ Segment.Fits (numbered word) pieces ∧
      tail.toList = pieces.flatMap ('/' :: ·) ∧
      entries = Segment.entries (numbered word) pieces := by
  have hentries : ∀ digits : String,
      Segment.entries (numbered word) [word.toList, digits.toList] = [("id", digits)] := by
    intro digits
    simp [numbered, Segment.entries, Segment.pair?, Segment.parameter?]
  have htail : ∀ digits : String, (front ++ digits).toList =
      [word.toList, digits.toList].flatMap ('/' :: ·) := by
    intro digits
    simp [String.toList_append, hfront]
  simp only [fits_numbered_iff]
  constructor
  · rintro ⟨digits, hdigits, rfl, rfl⟩
    exact ⟨_, ⟨digits, hdigits, rfl⟩, htail digits, (hentries digits).symm⟩
  · rintro ⟨pieces, ⟨digits, hdigits, rfl⟩, hpath, rfl⟩
    refine ⟨digits, hdigits, ?_, hentries digits⟩
    rw [← String.toList_inj, hpath, htail]

/-- The tails of an action are made up of the pieces that fit the segments which the action adds. -/
theorem tail_iff {action : ResourceAction} {tail : String} {entries : List (String × String)} :
    action.Tail tail entries ↔ ∃ pieces, List.Forall₂ Segment.Fits action.segments pieces ∧
      tail.toList = pieces.flatMap ('/' :: ·) ∧
      entries = Segment.entries action.segments pieces := by
  cases action with
  | index =>
    simp [Tail, segments, Segment.entries]
  | create =>
    constructor
    · rintro ⟨rfl, rfl⟩
      exact ⟨["add".toList], .cons rfl .nil, rfl, rfl⟩
    · rintro ⟨pieces, hfits, hpath, rfl⟩
      obtain _ | ⟨rfl, _ | _⟩ := hfits
      exact ⟨String.toList_inj.mp hpath, rfl⟩
  | read => exact numbered_iff rfl
  | update => exact numbered_iff rfl
  | destroy => exact numbered_iff rfl

/-- No pieces fit what two actions add. -/
theorem eq_of_fits {a b : ResourceAction} {pieces : List (List Char)}
    (ha : List.Forall₂ Segment.Fits a.segments pieces)
    (hb : List.Forall₂ Segment.Fits b.segments pieces) : a = b := by
  have hlength := ha.length_eq.trans hb.length_eq.symm
  cases a <;> cases b <;> first
    | rfl
    | exact absurd hlength (by decide)
    | · obtain ⟨digits, -, rfl⟩ := fits_numbered_iff.mp ha
        obtain ⟨others, -, heq⟩ := fits_numbered_iff.mp hb
        exact absurd (List.cons.inj heq).1 (by decide)

end ResourceAction

namespace Pattern

/-- Whether a path asks for an action of the resource whose own path the pattern matches, and with which
    parameters: those of the path of the resource, and behind them the number of the record. -/
def Asks (pattern : Pattern) (action : ResourceAction) (path : String) (params : Params) : Prop :=
  ∃ front captured tail entries, pattern.params? front = some captured ∧
    action.Tail tail entries ∧ path = front ++ tail ∧ params.entries = captured.entries ++ entries

section Asking

variable {base : String} {pattern : Pattern}

/-- A path asks for an action if it is made up of pieces that fit the segments of the resource and those
    of the action. -/
theorem asks_iff (hcompile : compile base "" = .ok pattern)
    (hfree : ∀ segment ∈ Template.segments base, ¬segment.IsFragment) {action : ResourceAction}
    {path : String} {params : Params} :
    pattern.Asks action path params ↔ ∃ front back,
      List.Forall₂ Segment.Fits (Template.segments base) front ∧
        List.Forall₂ Segment.Fits action.segments back ∧
        path.toList = (front ++ back).flatMap ('/' :: ·) ∧
        params.entries =
          Segment.entries (Template.segments base ++ action.segments) (front ++ back) := by
  constructor
  · rintro ⟨path, captured, tail, entries, hcaptured, htail, rfl, hparams⟩
    obtain ⟨front, hfront, hpath, hentries⟩ := (params?_eq_some_iff hcompile hfree).mp hcaptured
    obtain ⟨back, hback, hrest, rfl⟩ := ResourceAction.tail_iff.mp htail
    refine ⟨front, back, hfront, hback, ?_, ?_⟩
    · rw [String.toList_append, hpath, hrest, List.flatMap_append]
    · rw [hparams, hentries, Segment.entries_append hfront.length_eq]
  · rintro ⟨front, back, hfront, hback, hpath, hparams⟩
    have hcaptured : pattern.params? (.ofList (front.flatMap ('/' :: ·))) =
        some ⟨Segment.entries (Template.segments base) front⟩ :=
      (params?_eq_some_iff hcompile hfree).mpr ⟨front, hfront, String.toList_ofList, rfl⟩
    have htail : action.Tail (.ofList (back.flatMap ('/' :: ·)))
        (Segment.entries action.segments back) :=
      ResourceAction.tail_iff.mpr ⟨back, hback, String.toList_ofList, rfl⟩
    refine ⟨_, _, _, _, hcaptured, htail, ?_, ?_⟩
    · rw [← String.toList_inj, hpath, String.toList_append, String.toList_ofList,
        String.toList_ofList, List.flatMap_append]
    · rw [hparams, Segment.entries_append hfront.length_eq]

/-- No path asks for two actions. -/
theorem Asks.unique (hbase : base ≠ "") (hcompile : compile base "" = .ok pattern)
    (hfree : ∀ segment ∈ Template.segments base, ¬segment.IsFragment) {a b : ResourceAction}
    {path : String} {params others : Params} (ha : pattern.Asks a path params)
    (hb : pattern.Asks b path others) : a = b := by
  obtain ⟨front, back, hfront, hback, hpath, -⟩ := (asks_iff hcompile hfree).mp ha
  obtain ⟨front', back', hfront', hback', hpath', -⟩ := (asks_iff hcompile hfree).mp hb
  have hpieces : List.Forall₂ Segment.Fits (Template.segments (base ++ a.suffix))
      (front ++ back) := by
    rw [ResourceAction.segments_append_suffix hbase]
    exact Segment.forall₂_fits_append.mpr ⟨front, back, rfl, hfront, hback⟩
  have hpieces' : List.Forall₂ Segment.Fits (Template.segments (base ++ b.suffix))
      (front' ++ back') := by
    rw [ResourceAction.segments_append_suffix hbase]
    exact Segment.forall₂_fits_append.mpr ⟨front', back', rfl, hfront', hback'⟩
  have hsame := Segment.eq_of_fits hpieces hpieces' (hpath.symm.trans hpath')
  have hlength : front.length = front'.length := hfront.length_eq.symm.trans hfront'.length_eq
  rw [(List.append_inj hsame hlength).2] at hback
  exact ResourceAction.eq_of_fits hback hback'

end Asking

end Pattern

end HttpRouter
