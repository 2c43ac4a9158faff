import HttpRouter.Proofs.Path.Pieces
import Mathlib.Data.List.TakeWhile

namespace HttpRouter

namespace Segment

/-- The letters and digits between the first colon of an element and the next one. -/
def sanitised (element : List Char) : List Char :=
  (((element.dropWhile (· ≠ ':')).drop 1).takeWhile (· ≠ ':')).filter Char.isAlphanum

/-- An element without a colon is a literal. -/
theorem read_of_notMem {element : List Char} (hcolon : ':' ∉ element) :
    read element = .literal element := by
  have hrest : element.dropWhile (· ≠ ':') = [] := by
    rw [List.dropWhile_eq_nil_iff]
    intro c hc
    have hne : c ≠ ':' := by
      rintro rfl
      exact hcolon hc
    simpa using hne
  have hsplit : splitColon element = none := by
    rw [splitColon, List.span_eq_takeWhile_dropWhile, hrest]
  rw [read, hsplit]

/-- The text behind the first colon decides the name, unless there is a fragment. -/
theorem read_of_splitColon {element token rest : List Char}
    (hsplit : splitColon element = some (token, rest)) :
    (read element).IsFragment ∨ read element = .capture (captureName rest) (.ofToken token) := by
  rw [read, hsplit]
  dsimp only
  split
  · exact .inl trivial
  · split
    · split
      · split
        · exact .inl trivial
        · exact .inr rfl
      · exact .inr rfl
    · exact .inr rfl

/-- An element with a colon is a capture of its sanitised name, unless it is a fragment. -/
theorem read_of_mem {element : List Char} (hcolon : ':' ∈ element)
    (hfree : ¬(read element).IsFragment) :
    ∃ kind, read element = .capture (sanitised element) kind := by
  obtain ⟨c, rest, hrest⟩ : ∃ c rest, element.dropWhile (· ≠ ':') = c :: rest := by
    apply List.exists_cons_of_ne_nil
    intro hnone
    rw [List.dropWhile_eq_nil_iff] at hnone
    simpa using hnone ':' hcolon
  have hsplit : splitColon element = some (element.takeWhile (· ≠ ':'), rest) := by
    rw [splitColon, List.span_eq_takeWhile_dropWhile, hrest]
  have hname : captureName rest = sanitised element := by
    rw [sanitised, hrest]
    rfl
  rw [← hname]
  exact ⟨_, (read_of_splitColon hsplit).resolve_left hfree⟩

end Segment

namespace Template

/-- The names that elements declare, in order. An element with a colon declares one. -/
def names (elements : List (List Char)) : List (List Char) :=
  (elements.filter (':' ∈ ·)).map Segment.sanitised

/-- Names that are not empty, do not start with a digit and differ from each other. -/
structure SoundNames (names : List (List Char)) : Prop where
  named : ∀ name ∈ names, name ≠ []
  undigited : ∀ name ∈ names, ∀ first ∈ name.head?, first.isDigit = false
  distinct : names.Nodup

/-- A template within the limits that declares sound names. -/
structure Sound (template : String) : Prop where
  length : template.utf8ByteSize ≤ 1024
  segments : (elements template.toList).length ≤ 32
  names : SoundNames (names (elements template.toList))

/-- What is wrong with the name of an element, given the names that come before it. -/
inductive NameDefect (taken : List (List Char)) (element : List Char) : TemplateError → Prop where
  | empty (hname : Segment.sanitised element = []) :
      NameDefect taken element (.emptyName (.ofList element))
  | digit {first : Char} {rest : List Char} (hname : Segment.sanitised element = first :: rest)
      (hdigit : first.isDigit = true) :
      NameDefect taken element (.digitName (.ofList (first :: rest)))
  | duplicate {first : Char} {rest : List Char} (hname : Segment.sanitised element = first :: rest)
      (hdigit : first.isDigit = false) (htaken : first :: rest ∈ taken) :
      NameDefect taken element (.duplicateName (.ofList (first :: rest)))

/-- The first defect of a template: its length, then the number of its segments, and then the
    leftmost name that is wrong. -/
inductive FirstDefect (template : String) : TemplateError → Prop where
  | length (hlength : 1024 < template.utf8ByteSize) :
      FirstDefect template (.tooLong template.utf8ByteSize)
  | segments (hlength : template.utf8ByteSize ≤ 1024)
      (hsegments : 32 < (elements template.toList).length) :
      FirstDefect template (.tooManySegments (elements template.toList).length)
  | name (hlength : template.utf8ByteSize ≤ 1024)
      (hsegments : (elements template.toList).length ≤ 32)
      {before after : List (List Char)} {element : List Char} {defect : TemplateError}
      (helements : elements template.toList = before ++ element :: after)
      (hbefore : SoundNames (names before)) (hcapture : ':' ∈ element)
      (hdefect : NameDefect (names before) element defect) :
      FirstDefect template defect

/-- Names that come before others are sound if all of them are. -/
theorem SoundNames.before {taken more : List (List Char)} (h : SoundNames (taken ++ more)) :
    SoundNames taken :=
  ⟨fun name hname => h.named name (List.mem_append_left _ hname),
    fun name hname => h.undigited name (List.mem_append_left _ hname),
    h.distinct.sublist (List.sublist_append_left _ _)⟩

theorem names_append (before after : List (List Char)) :
    names (before ++ after) = names before ++ names after := by
  rw [names, List.filter_append, List.map_append]
  rfl

theorem names_cons_of_mem {element : List Char} (hcolon : ':' ∈ element)
    (elements : List (List Char)) :
    names (element :: elements) = Segment.sanitised element :: names elements := by
  simp [names, hcolon]

theorem names_cons_of_notMem {element : List Char} (hcolon : ':' ∉ element)
    (elements : List (List Char)) : names (element :: elements) = names elements := by
  simp [names, hcolon]

/-- One name more is sound, or there is something wrong with it. -/
theorem soundNames_or_nameDefect {taken : List (List Char)} (htaken : SoundNames taken)
    (element : List Char) :
    SoundNames (taken ++ [Segment.sanitised element]) ∨
      ∃ defect, NameDefect taken element defect := by
  cases hname : Segment.sanitised element with
  | nil => exact .inr ⟨_, .empty hname⟩
  | cons first rest =>
    cases hdigit : first.isDigit with
    | true => exact .inr ⟨_, .digit hname hdigit⟩
    | false =>
      by_cases hmem : first :: rest ∈ taken
      · exact .inr ⟨_, .duplicate hname hdigit hmem⟩
      · left
        refine ⟨?_, ?_, ?_⟩
        · rw [List.forall_mem_append, List.forall_mem_singleton]
          exact ⟨htaken.named, List.cons_ne_nil _ _⟩
        · rw [List.forall_mem_append, List.forall_mem_singleton]
          refine ⟨htaken.undigited, ?_⟩
          rintro _ ⟨⟩
          exact hdigit
        · rw [← List.concat_eq_append]
          exact htaken.distinct.concat hmem

/-- The elements declare sound names, or there is a leftmost one with a defect. -/
theorem soundNames_or_exists_defect (before elements : List (List Char))
    (hbefore : SoundNames (names before)) :
    SoundNames (names (before ++ elements)) ∨ ∃ between element after defect,
      elements = between ++ element :: after ∧ SoundNames (names (before ++ between)) ∧
      ':' ∈ element ∧ NameDefect (names (before ++ between)) element defect := by
  induction elements generalizing before with
  | nil => exact .inl (by rwa [List.append_nil])
  | cons element elements ih =>
    by_cases hsound : SoundNames (names (before ++ [element]))
    · refine (ih _ hsound).imp (fun hall => by simpa using hall) ?_
      rintro ⟨between, other, after, defect, rfl, hall, hcolon, hdefect⟩
      exact ⟨element :: between, other, after, defect, rfl, by simpa using hall, hcolon,
        by simpa using hdefect⟩
    · right
      have hcolon : ':' ∈ element := by
        by_contra hcolon
        rw [names_append, names_cons_of_notMem hcolon] at hsound
        exact hsound (by simpa [names] using hbefore)
      rw [names_append, names_cons_of_mem hcolon] at hsound
      obtain ⟨defect, hdefect⟩ := (soundNames_or_nameDefect hbefore element).resolve_left hsound
      exact ⟨[], element, elements, defect, rfl, by simpa using hbefore, hcolon,
        by simpa using hdefect⟩

/-- A template that is not sound has a first defect. -/
theorem sound_or_exists_firstDefect (template : String) :
    Sound template ∨ ∃ defect, FirstDefect template defect := by
  by_cases hlength : template.utf8ByteSize ≤ 1024
  · by_cases hsegments : (elements template.toList).length ≤ 32
    · refine (soundNames_or_exists_defect [] (elements template.toList) ?_).imp
        (fun hnames => ⟨hlength, hsegments, hnames⟩) ?_
      · exact ⟨by simp [names], by simp [names], List.nodup_nil⟩
      · rintro ⟨before, element, after, defect, helements, hbefore, hcolon, hdefect⟩
        exact ⟨defect, .name hlength hsegments helements hbefore hcolon hdefect⟩
    · exact .inr ⟨_, .segments hlength (by omega)⟩
  · exact .inr ⟨_, .length (by omega)⟩

end Template

namespace Draft

open Template (names SoundNames NameDefect)

/-- The parameters of the draft are those that the elements declare. -/
def Lists (draft : Draft) (elements : List (List Char)) : Prop :=
  draft.parameters.reverse.map (·.name) = (names elements).map String.ofList

variable {draft : Draft} {elements : List (List Char)} {element : List Char}

theorem Lists.any_name_iff (h : draft.Lists elements) (name : List Char) :
    draft.parameters.any (·.name == .ofList name) = true ↔ name ∈ names elements := by
  rw [List.any_eq_true]
  constructor
  · rintro ⟨parameter, hparameter, hname⟩
    have hmem : parameter.name ∈ (names elements).map String.ofList := by
      rw [← h]
      exact List.mem_map_of_mem (List.mem_reverse.mpr hparameter)
    obtain ⟨other, hother, heq⟩ := List.mem_map.mp hmem
    rw [← heq, beq_iff_eq, String.ofList_inj] at hname
    rwa [← hname]
  · intro hmem
    have hname : String.ofList name ∈ draft.parameters.reverse.map (·.name) := by
      rw [h]
      exact List.mem_map_of_mem hmem
    obtain ⟨parameter, hparameter, heq⟩ := List.mem_map.mp hname
    exact ⟨parameter, List.mem_reverse.mp hparameter, beq_iff_eq.mpr heq⟩

/-- A defect of the name stops the draft. -/
theorem addSegment_of_nameDefect (hlists : draft.Lists elements) (hcolon : ':' ∈ element)
    (hfree : ¬(Segment.read element).IsFragment) {defect : TemplateError}
    (hdefect : NameDefect (names elements) element defect) :
    draft.addSegment element = .error defect := by
  obtain ⟨kind, hread⟩ := Segment.read_of_mem hcolon hfree
  rw [addSegment, hread]
  cases hdefect with
  | empty hname => simp only [hname]
  | digit hname hdigit => simp only [hname, hdigit, if_true]
  | duplicate hname hdigit htaken =>
    have hany := (hlists.any_name_iff _).mpr htaken
    simp only [hname, hdigit, Bool.false_eq_true, if_false]
    exact if_pos hany

/-- Where no name is wrong the draft takes the element. -/
theorem addSegment_of_sound (hlists : draft.Lists elements)
    (hfree : ¬(Segment.read element).IsFragment)
    (hsound : SoundNames (names (elements ++ [element]))) :
    ∃ next, draft.addSegment element = .ok next ∧ next.Lists (elements ++ [element]) := by
  by_cases hcolon : ':' ∈ element
  · obtain ⟨kind, hread⟩ := Segment.read_of_mem hcolon hfree
    have hnames : names (elements ++ [element]) = names elements ++ [Segment.sanitised element] := by
      rw [Template.names_append, Template.names_cons_of_mem hcolon]
      rfl
    rw [hnames] at hsound
    cases hname : Segment.sanitised element with
    | nil => exact absurd hname (hsound.named _ (by simp))
    | cons first rest =>
      rw [hname] at hsound hnames hread
      have hdigit : first.isDigit = false := hsound.undigited (first :: rest) (by simp) first rfl
      have hnew : first :: rest ∉ names elements := by
        have hdistinct := hsound.distinct
        rw [List.nodup_append] at hdistinct
        intro hmem
        exact hdistinct.2.2 _ hmem _ (List.mem_singleton_self _) rfl
      have hany : ((draft.write ['/']).parameters.any (·.name == .ofList (first :: rest))) = false :=
        Bool.eq_false_iff.mpr fun hany => hnew ((hlists.any_name_iff _).mp hany)
      rw [addSegment, hread]
      simp only [hdigit, Bool.false_eq_true, if_false, hany]
      refine ⟨_, rfl, ?_⟩
      rw [Lists, hnames, List.map_append, ← hlists]
      simp [write]
  · have hread := Segment.read_of_notMem hcolon
    rw [addSegment, hread]
    refine ⟨_, rfl, ?_⟩
    have hnames : names (elements ++ [element]) = names elements := by
      rw [Template.names_append, Template.names_cons_of_notMem hcolon]
      exact List.append_nil _
    rw [Lists, hnames]
    exact hlists

theorem foldlM_addSegment_of_sound (hlists : draft.Lists elements) {more : List (List Char)}
    (hfree : ∀ element ∈ more, ¬(Segment.read element).IsFragment)
    (hsound : SoundNames (names (elements ++ more))) :
    ∃ final, more.foldlM addSegment draft = .ok final ∧ final.Lists (elements ++ more) := by
  induction more generalizing draft elements with
  | nil => exact ⟨draft, rfl, by rwa [List.append_nil]⟩
  | cons element more ih =>
    rw [List.forall_mem_cons] at hfree
    rw [List.append_cons] at hsound ⊢
    have hfirst : SoundNames (names (elements ++ [element])) := by
      rw [Template.names_append] at hsound
      exact hsound.before
    obtain ⟨next, hadd, hnext⟩ := addSegment_of_sound hlists hfree.1 hfirst
    obtain ⟨final, hfold, hfinal⟩ := ih hnext hfree.2 hsound
    refine ⟨final, ?_, hfinal⟩
    rw [List.foldlM_cons, hadd]
    exact hfold

/-- The draft stops at the leftmost element whose name is wrong. -/
theorem foldlM_addSegment_of_nameDefect (hlists : draft.Lists []) {before after : List (List Char)}
    (hfree : ∀ other ∈ before ++ element :: after, ¬(Segment.read other).IsFragment)
    (hbefore : SoundNames (names before)) (hcolon : ':' ∈ element) {defect : TemplateError}
    (hdefect : NameDefect (names before) element defect) :
    (before ++ element :: after).foldlM addSegment draft = .error defect := by
  obtain ⟨hfreeBefore, hfreeFrom⟩ := List.forall_mem_append.mp hfree
  obtain ⟨next, hfold, hnext⟩ := foldlM_addSegment_of_sound hlists hfreeBefore hbefore
  rw [List.foldlM_append, hfold]
  have hstop := addSegment_of_nameDefect hnext hcolon (List.forall_mem_cons.mp hfreeFrom).1 hdefect
  change (element :: after).foldlM addSegment next = .error defect
  rw [List.foldlM_cons, hstop]
  rfl

end Draft

end HttpRouter
