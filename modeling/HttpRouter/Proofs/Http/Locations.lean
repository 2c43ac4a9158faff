import HttpRouter.Proofs.Http.Building
import Mathlib.Logic.Basic

namespace HttpRouter.Http

/-- Whether a text is made up of ASCII characters only. -/
def IsAscii (s : String) : Prop :=
  ∀ c ∈ s.toList, c.toNat < 0x80

instance : DecidablePred IsAscii :=
  fun s => inferInstanceAs (Decidable (∀ c ∈ s.toList, c.toNat < 0x80))

/-- A character can be read back from a header exactly if it can be sent in one and is ASCII. -/
theorem isReadableChar_iff (c : Char) :
    (c == '\t' || (' ' ≤ c && c ≤ '~')) = true ↔
      (c == '\t' || (' ' ≤ c && c != '\x7f')) = true ∧ c.toNat < 0x80 := by
  have hchar : ∀ d : Char, c = d ↔ c.toNat = d.toNat := fun d => Char.toNat_inj.symm
  have hle : ∀ d e : Char, d ≤ e ↔ d.toNat ≤ e.toNat := fun d e => by
    rw [Char.le_def, UInt32.le_iff_toNat_le]
    rfl
  simp only [Bool.or_eq_true, Bool.and_eq_true, beq_iff_eq, bne_iff_ne, ne_eq, decide_eq_true_eq,
    hchar, hle, Char.reduceToNat]
  omega

/-- What can be read back from a header is what can be sent in one and is ASCII text. -/
theorem isReadable_iff (s : String) :
    isReadable s = true ↔ isHeaderValue s = true ∧ IsAscii s := by
  simp only [isReadable, isHeaderValue, IsAscii, List.all_eq_true, isReadableChar_iff]
  exact forall₂_and

namespace Response

variable (response : Response) {target : String}

/-- A place that can be sent is the only one that is set. -/
theorem withLocation_of_sendable (htarget : isHeaderValue target = true) :
    (response.withLocation target).value =
      { response with headers := response.headers.set "location" target } := by
  rw [withLocation, if_pos htarget]
  rfl

/-- A place that cannot be sent is not set. -/
theorem withLocation_of_refused (htarget : isHeaderValue target = false) :
    (response.withLocation target).value = response :=
  response.take_of_isRefused (show (Step.location target).IsRefused from htarget)

/-- A place that is set is read back exactly if it is ASCII text. -/
theorem location?_withLocation (htarget : isHeaderValue target = true) :
    (response.withLocation target).value.location? =
      if IsAscii target then some target else none := by
  have hget : (response.headers.set "location" target).get? "location" = some target := by
    rw [Headers.get?, Headers.set, Assoc.find?_put, if_pos rfl]
  rw [response.withLocation_of_sendable htarget, location?, hget, Option.filter_some]
  refine if_congr ?_ rfl rfl
  rw [isReadable_iff, and_iff_right htarget]

/-- A place that can be sent is set in place of any earlier one, and is read back exactly if it is
    ASCII text; another place leaves the response as it is. A redirection tells the place that it leads
    to exactly if that can be sent and is ASCII text. -/
theorem location_reads_back (response : Response) (target : String) :
    (isHeaderValue target = true →
      (response.withLocation target).value.headers.values "location" = [target] ∧
      (response.withLocation target).value.location? =
        if IsAscii target then some target else none) ∧
    (isHeaderValue target = false → (response.withLocation target).value = response) ∧
    (temporaryRedirect target).value.location? =
      if isHeaderValue target = true ∧ IsAscii target then some target else none := by
  refine ⟨fun htarget => ⟨?_, response.location?_withLocation htarget⟩,
    response.withLocation_of_refused, ?_⟩
  · rw [response.withLocation_of_sendable htarget, Headers.values_set, if_pos rfl]
  · rw [temporaryRedirect]
    by_cases htarget : isHeaderValue target = true
    · rw [location?_withLocation _ htarget]
      simp only [htarget, true_and]
    · rw [withLocation_of_refused _ (Bool.eq_false_iff.mpr htarget), if_neg fun h => htarget h.1]
      rfl

theorem location_reads_back_tab :
    isHeaderValue "/a\t?b=~" = true ∧
      ((ok.withHeader "Location" "/old").withLocation "/a\t?b=~").value.location? = some "/a\t?b=~" := by
  have htarget : isHeaderValue "/a\t?b=~" = true := by decide
  have hascii : IsAscii "/a\t?b=~" := ((isReadable_iff _).mp (by decide)).2
  have hread := ((location_reads_back (ok.withHeader "Location" "/old") "/a\t?b=~").1 htarget).2
  rw [if_pos hascii] at hread
  exact ⟨htarget, hread⟩

/-- A place with a letter beyond ASCII is sent, but not read back. -/
theorem location_unread :
    isHeaderValue "/café" = true ∧
      (temporaryRedirect "/café").value.headers.values "location" = ["/café"] ∧
      (temporaryRedirect "/café").value.location? = none := by
  refine ⟨by decide, rfl, rfl⟩

end Response

end HttpRouter.Http
