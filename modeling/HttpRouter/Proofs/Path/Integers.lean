import HttpRouter.Proofs.Path.Mapping
import HttpRouter.Proofs.Path.Resource
import HttpRouter.Proofs.Text.Integers

namespace HttpRouter

/-- A parameter that holds a number is read as its value, or found too large for the type. -/
theorem Params.read_of_isNumber {params : Params} {name digits : String}
    (hget : params.get? name = some digits) (hnumber : IsNumber digits) (type : Text.IntegerType) :
    params.read (.integer type) name =
      if Text.decimalValue digits.toList ≤ type.greatest then
        .ok (.integer (Text.decimalValue digits.toList))
      else .error (.unreadable name (ValueType.integer type).name digits
        Text.IntegerError.tooLarge.message) := by
  have hread := type.read_of_digits hnumber.ne_empty hnumber.isDigit
  unfold read
  rw [hget]
  dsimp only [ValueType.read]
  rw [hread]
  by_cases hfits : Text.decimalValue digits.toList ≤ type.greatest
  · rw [if_pos hfits, if_pos hfits]
  · rw [if_neg hfits, if_neg hfits]

namespace Segment

/-- The capture in some place takes the piece in the same place. -/
theorem exists_piece_of_capture {segments : List Segment} {pieces : List (List Char)}
    (hfits : List.Forall₂ Fits segments pieces) {letters : List Char} {kind : CaptureKind}
    {place : Nat} (hplace : segments[place]? = some (Segment.capture letters kind)) :
    ∃ piece, pieces[place]? = some piece ∧ Fits (.capture letters kind) piece ∧
      (.ofList letters, .ofList piece) ∈ entries segments pieces := by
  induction hfits generalizing place with
  | nil => cases hplace
  | @cons segment piece segments pieces hfirst hrest ih =>
    rw [entries_cons]
    cases place with
    | zero =>
      obtain rfl : segment = .capture letters kind := by simpa using hplace
      exact ⟨piece, rfl, hfirst, List.mem_append_left _ (List.mem_singleton_self _)⟩
    | succ place =>
      obtain ⟨found, hfound, hfitsFound, hentry⟩ := ih (by simpa using hplace)
      exact ⟨found, by simpa using hfound, hfitsFound, List.mem_append_right _ hentry⟩

/-- A parameter of segments is declared by the capture in some place. -/
theorem exists_capture_of_mem_parameters {segments : List Segment} {parameter : Parameter}
    (hmem : parameter ∈ parameters segments) :
    ∃ place : Nat, segments[place]? = some (Segment.capture parameter.name.toList parameter.kind) := by
  obtain ⟨segment, hsegment, hdeclares⟩ := List.mem_filterMap.mp hmem
  obtain ⟨place, hplace⟩ := List.mem_iff_getElem?.mp hsegment
  refine ⟨place, ?_⟩
  cases segment with
  | literal text => cases hdeclares
  | fragment text => cases hdeclares
  | capture letters kind =>
    cases hdeclares
    rw [hplace, String.toList_ofList]

end Segment

namespace Pattern

/-- For every template without fragments that declares a capture for numbers, and every path that
    matches: the parameter of that name holds the digits that stand in the path where the capture
    stands in the template. Read as an integer of a type it is the value of these digits, with zeros in
    front or without, if that is at most the greatest value of the type. Otherwise the error tells the
    name, the type and the digits as they stand in the path, and that the number is too large. -/
theorem read_int_capture {template mount : String} {pattern : Pattern}
    (hcompile : compile template mount = .ok pattern)
    (hfree : ∀ segment ∈ Template.segments (mount ++ template), ¬segment.IsFragment)
    {name : String} (hname : ⟨name, .int⟩ ∈ pattern.parameters) {path : String}
    (hmatch : pattern.isMatch path = true) :
    ∃ (params : Params) (rest : List Char) (place : Nat) (digits : String),
      pattern.params? path = some params ∧ path.toList = '/' :: rest ∧
      (Template.segments (mount ++ template))[place]? = some (Segment.capture name.toList .int) ∧
      (rest.splitOn '/')[place]? = some digits.toList ∧
      params.get? name = some digits ∧ IsNumber digits ∧
      ∀ type : Text.IntegerType, params.read (.integer type) name =
        if Text.decimalValue digits.toList ≤ type.greatest then
          .ok (.integer (Text.decimalValue digits.toList))
        else .error (.unreadable name (ValueType.integer type).name digits
          "number too large to fit in target type") := by
  obtain ⟨rows, hlaid⟩ := laidOut_of_compile hcompile fun segment hsegment =>
    Segment.confined_of_not_isFragment (hfree segment hsegment)
  rw [hlaid.parameters_eq hfree] at hname
  obtain ⟨place, hplace⟩ := Segment.exists_capture_of_mem_parameters hname
  obtain ⟨⟨start, thread⟩, hsearch⟩ := Option.isSome_iff_exists.mp hmatch
  obtain ⟨params, hparams⟩ := exists_params_of_search hsearch
  obtain ⟨rest, hpath, hfits, hentries⟩ :=
    Segment.exists_pieces_iff.mp (hlaid.exists_pieces hfree hparams)
  obtain ⟨piece, hpiece, ⟨hne, hdigits⟩, hentry⟩ := Segment.exists_piece_of_capture hfits hplace
  rw [String.ofList_toList, ← hentries] at hentry
  have hdiffer : (params.entries.map (·.1)).Nodup :=
    (map_entries_sublist hparams).nodup (compiled_of_compile hcompile).nodup_parameters
  have hget : params.get? name = some (.ofList piece) := (Assoc.find?_eq_some_iff hdiffer).mpr hentry
  have hnumber : IsNumber (.ofList piece) := by
    refine ⟨by simpa using hne, ?_⟩
    rw [String.toList_ofList]
    exact hdigits
  exact ⟨params, rest, place, .ofList piece, hparams, hpath, hplace,
    by rw [String.toList_ofList, hpiece], hget, hnumber, Params.read_of_isNumber hget hnumber⟩

/-- A number with zeros in front, which is the greatest that eight bits without a sign can hold. -/
theorem read_int_capture_zeros :
    ∃ pattern params, compile "int:id" "/users/" = .ok pattern ∧
      pattern.params? "/users/00255" = some params ∧
      params.read (.integer ⟨false, 8⟩) "id" = .ok (.integer 255) ∧
      params.read (.integer ⟨true, 8⟩) "id" = .error (.unreadable "id" "i8" "00255"
        "number too large to fit in target type") := by
  have hrun : (compile "int:id" "/users/").toOption.map
      (fun pattern => (pattern.parameters, pattern.expr)) =
      some ([⟨"id", .int⟩], .concat [.look .textStart, .literal "/users/".toList,
        .capture 1 (some "id") (.repeat 1 none false (.one CaptureKind.int.cls)),
        .look .textEnd]) := by
    decide +kernel
  have hsegments : Template.segments ("/users/" ++ "int:id") =
      [.literal "users".toList, .capture "id".toList .int] := by decide +kernel
  cases hcompile : compile "int:id" "/users/" with
  | error e => rw [hcompile] at hrun; cases hrun
  | ok pattern =>
    rw [hcompile] at hrun
    obtain ⟨hparameters, hexpr⟩ := Prod.mk.inj (Option.some.inj hrun)
    have hparams : pattern.params? "/users/00255" = some ⟨[("id", "00255")]⟩ := by
      rw [params?, hparameters, hexpr]
      cbv
    have hmatch : pattern.isMatch "/users/00255" = true := by
      rw [params?] at hparams
      rw [isMatch, ← Option.isSome_map, hparams]
      rfl
    obtain ⟨params, -, -, digits, hfound, -, -, -, hget, -, hread⟩ := read_int_capture hcompile
      (by rw [hsegments]; simp [Segment.IsFragment])
      (hparameters ▸ List.mem_singleton_self (⟨"id", .int⟩ : Parameter)) hmatch
    rw [hparams] at hfound
    cases hfound
    obtain rfl : "00255" = digits := Option.some.inj hget
    refine ⟨pattern, _, rfl, hparams, ?_, ?_⟩
    · rw [hread, if_pos (by decide)]
      decide
    · rw [hread, if_neg (by decide)]
      decide

end Pattern

end HttpRouter
