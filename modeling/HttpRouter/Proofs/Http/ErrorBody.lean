import HttpRouter.Http.ErrorBody
import HttpRouter.Proofs.Json.Strings

namespace HttpRouter.Http.ErrorBody

/-- The text of a member whose value is a string. -/
def memberText (name value : String) : List Char :=
  (Json.stringText name).toList ++ ':' :: (Json.stringText value).toList

namespace Fields

/-- A member is read into its field, and what stands behind it decides how to go on. -/
theorem readMembers_member {fields next : Fields} {name value : String} {rest : List Char}
    (hfield : fields.readField name ((Json.stringText value).toList ++ rest) = some (next, rest))
    (fuel : Nat) :
    readMembers (fuel + 1) fields (memberText name value ++ rest) =
      match Json.skipBlanks rest with
      | ',' :: rest => readMembers fuel next rest
      | '\x7d' :: rest => some (next, rest)
      | _ => none := by
  have hcolon : Json.skipBlanks (':' :: ((Json.stringText value).toList ++ rest)) =
      ':' :: ((Json.stringText value).toList ++ rest) := rfl
  rw [readMembers, memberText, List.append_assoc, List.cons_append, Json.skipBlanks_stringText,
    Json.readString_stringText]
  dsimp only [Option.bind_eq_bind, Option.bind_some]
  rw [hcolon]
  change (fields.readField name ((Json.stringText value).toList ++ rest)).bind _ = _
  rw [hfield]
  rfl

end Fields

/-- A payload is written as an object with its fields for members. -/
theorem toList_text (payload : ErrorBody) :
    payload.toJson.text.toList =
      '\x7b' :: (memberText "code" payload.code ++ ',' :: (memberText "title" payload.title ++
        ',' :: (memberText "message" payload.message ++ ['\x7d']))) := by
  simp [toJson, Json.text, Json.memberTexts, memberText, String.intercalate_cons_cons]

/-- The members of a written payload are read into all fields, given fuel for the three of them. -/
theorem readMembers_text (payload : ErrorBody) (fuel : Nat) :
    Fields.readMembers (fuel + 3) {}
      (memberText "code" payload.code ++ ',' :: (memberText "title" payload.title ++
        ',' :: (memberText "message" payload.message ++ ['\x7d']))) =
      some (⟨payload.code, payload.title, payload.message⟩, []) := by
  have hcode : ∀ rest, Fields.readField {} "code" ((Json.stringText payload.code).toList ++ rest) =
      some ({ code := payload.code }, rest) := by
    simp [Fields.readField]
  have htitle : ∀ rest, Fields.readField { code := payload.code } "title"
      ((Json.stringText payload.title).toList ++ rest) =
        some ({ code := payload.code, title := payload.title }, rest) := by
    simp [Fields.readField]
  have hmessage : ∀ rest, Fields.readField { code := payload.code, title := payload.title } "message"
      ((Json.stringText payload.message).toList ++ rest) =
        some (⟨payload.code, payload.title, payload.message⟩, rest) := by
    simp [Fields.readField]
  refine (Fields.readMembers_member (hcode _) _).trans ?_
  refine (Fields.readMembers_member (htitle _) _).trans ?_
  exact Fields.readMembers_member (hmessage _) _

/-- A written payload is read as itself. -/
theorem read_text (payload : ErrorBody) : read payload.toJson.text = some payload := by
  have hfuel : ∃ fuel, payload.toJson.text.toList.length + 1 = fuel + 3 := by
    refine ⟨payload.toJson.text.toList.length - 2, ?_⟩
    rw [toList_text]
    simp only [List.length_cons, List.length_append]
    omega
  obtain ⟨fuel, hfuel⟩ := hfuel
  have hmembers := payload.readMembers_text fuel
  rw [← hfuel] at hmembers
  have hquote : ∃ tail, memberText "code" payload.code ++ ',' :: (memberText "title" payload.title ++
      ',' :: (memberText "message" payload.message ++ ['\x7d'])) = '"' :: tail := by
    rw [memberText, Json.stringText, String.toList_ofList]
    exact ⟨_, rfl⟩
  obtain ⟨tail, hquote⟩ := hquote
  have hopen : Json.skipBlanks ('\x7b' :: '"' :: tail) = '\x7b' :: '"' :: tail := rfl
  have hfirst : Json.skipBlanks ('"' :: tail) = '"' :: tail := rfl
  unfold read
  rw [toList_text, hquote] at hmembers ⊢
  simp only [hopen, hfirst]
  split
  · rename_i heq
    cases heq
  · rw [hmembers]
    rfl

end HttpRouter.Http.ErrorBody
