import HttpRouter.Proofs.Text.Trimming
import HttpRouter.Router.Basic

namespace HttpRouter.Settings

open Text

/-- A base path in its own form: empty or with a slash in front, without a slash at the end, and
    without blanks around it. -/
structure IsCanonical (path : String) : Prop where
  rooted : path = "" ∨ path.toList.head? = some '/'
  openEnd : path.toList.getLast? ≠ some '/'
  trimmed : IsTrimmed path

/-- Whether a blank stands right before slashes at the end of a mount, blanks behind them aside. -/
def HidesBlank (mount : String) : Prop :=
  ∃ front blank slashes, (trim mount).toList = front ++ blank :: slashes ∧ isBlank blank = true ∧
    ∀ c ∈ slashes, c = '/'

section Form

variable (settings : Settings)

/-- What is left of the mount without the blanks around it and then the slashes at its end. -/
def bareMount : List Char :=
  (trim settings.mount).toList.rdropWhile (· == '/')

/-- The base path is what is left of the mount, with a slash in front unless nothing is left. -/
theorem toList_basePath :
    settings.basePath.toList =
      if settings.bareMount = [] ∨ settings.bareMount.head? = some '/' then settings.bareMount
      else '/' :: settings.bareMount := by
  have hbare : dropWhileEnd (· == '/') (trim settings.mount).toList = settings.bareMount := rfl
  unfold basePath
  rw [hbare]
  split
  · rename_i hnil
    simp [hnil]
  · rename_i rest hslash
    simp [hslash]
  · rename_i hne hfirst
    have hother : ¬(settings.bareMount = [] ∨ settings.bareMount.head? = some '/') := by
      rintro (hnil | hslash)
      · exact hne hnil
      · obtain ⟨rest, hrest⟩ := List.head?_eq_some_iff.mp hslash
        exact hfirst rest hrest
    rw [if_neg hother, String.toList_ofList]

/-- No slash is left at the end. -/
theorem getLast?_bareMount_ne : settings.bareMount.getLast? ≠ some '/' := by
  intro hlast
  obtain ⟨hne, heq⟩ := List.mem_getLast?_eq_getLast hlast
  have hstop := List.rdropWhile_last_not (· == '/') (trim settings.mount).toList hne
  exact hstop (beq_iff_eq.mpr heq.symm)

/-- The base path ends as what is left of the mount does. -/
theorem getLast?_basePath : settings.basePath.toList.getLast? = settings.bareMount.getLast? := by
  rw [toList_basePath]
  split
  · rfl
  · rename_i hbare
    obtain ⟨c, rest, heq⟩ := List.exists_cons_of_ne_nil (fun hnil => hbare (.inl hnil))
    rw [heq, List.getLast?_cons_cons]

/-- A base path does not end in a slash. -/
theorem openEnd_basePath : settings.basePath.toList.getLast? ≠ some '/' := by
  rw [getLast?_basePath]
  exact settings.getLast?_bareMount_ne

/-- A base path has a slash in front unless it is empty. -/
theorem rooted_basePath :
    settings.basePath = "" ∨ settings.basePath.toList.head? = some '/' := by
  rw [← String.toList_eq_nil_iff, toList_basePath]
  split
  · assumption
  · exact .inr rfl

/-- No blank is left in front of a base path. -/
theorem isBlank_head_basePath : ∀ c ∈ settings.basePath.toList.head?, isBlank c = false := by
  intro c hc
  obtain hempty | hslash := settings.rooted_basePath
  · rw [hempty] at hc
    cases hc
  · rw [hslash] at hc
    cases hc
    decide

/-- A blank is left at the end of a base path exactly if slashes behind it hide it from being taken
    off. -/
theorem isTrimmed_basePath_iff : IsTrimmed settings.basePath ↔ ¬HidesBlank settings.mount := by
  have hmount : (trim settings.mount).toList =
      settings.bareMount ++ (trim settings.mount).toList.rtakeWhile (· == '/') :=
    List.rdropWhile_append_rtakeWhile.symm
  rw [IsTrimmed, getLast?_basePath, and_iff_right settings.isBlank_head_basePath]
  constructor
  · rintro hlast ⟨front, blank, slashes, hsplit, hblank, hslashes⟩
    -- The blank is no slash, so it is where taking slashes off comes to a stop.
    have hstop : ¬(blank == '/') = true := by
      rw [beq_iff_eq]
      rintro rfl
      cases hblank
    have hbare : settings.bareMount = front ++ [blank] := by
      rw [bareMount, hsplit, List.append_cons,
        rdropWhile_append_of_pos fun c hc => beq_iff_eq.mpr (hslashes c hc)]
      exact List.rdropWhile_concat_neg (· == '/') front blank hstop
    have hnone := hlast blank (by simp [hbare])
    rw [hblank] at hnone
    cases hnone
  · intro hhides blank hlast
    obtain ⟨front, hbare⟩ := List.getLast?_eq_some_iff.mp hlast
    rw [hbare, List.append_assoc, List.singleton_append] at hmount
    by_contra hblank
    exact hhides ⟨front, blank, _, hmount, by simpa using hblank, fun c hc =>
      beq_iff_eq.mp (List.mem_rtakeWhile_imp (p := (· == '/')) hc)⟩

/-- A mount with a slash in front gets no other one. -/
theorem toList_basePath_of_rooted (hrooted : settings.mount.toList.head? = some '/') :
    settings.basePath.toList = settings.bareMount := by
  obtain ⟨front, back, hmount, hfront, -⟩ := exists_eq_append_trim settings.mount
  obtain ⟨slashes, hbare⟩ : settings.bareMount <+: (trim settings.mount).toList :=
    List.rdropWhile_prefix _ _
  rw [hmount, ← hbare] at hrooted
  rw [toList_basePath, if_pos]
  -- The slash is no blank, so it is not in front of the trimmed mount.
  cases front with
  | cons c front =>
    cases hrooted
    cases hfront '/' List.mem_cons_self
  | nil =>
    cases hleft : settings.bareMount with
    | nil => exact .inl rfl
    | cons c rest =>
      rw [hleft] at hrooted
      exact .inr hrooted

/-- A mount that has the form of a base path is its own base path, and no other mount is. -/
theorem basePath_eq_mount_iff : settings.basePath = settings.mount ↔ IsCanonical settings.mount := by
  constructor
  · intro hself
    refine ⟨hself ▸ settings.rooted_basePath, hself ▸ settings.openEnd_basePath,
      trim_eq_self_iff.mp ?_⟩
    obtain hempty | hslash := hself ▸ settings.rooted_basePath
    · rw [hempty]
      rfl
    · have hbare := settings.toList_basePath_of_rooted hslash
      rw [hself] at hbare
      have hkept : settings.mount.toList.Sublist (trim settings.mount).toList := by
        rw [hbare]
        exact (List.rdropWhile_prefix _ _).sublist
      have htrim : (trim settings.mount).toList.Sublist settings.mount.toList := by
        obtain ⟨front, back, hmount, -, -⟩ := exists_eq_append_trim settings.mount
        exact List.IsInfix.sublist ⟨front, back, hmount.symm⟩
      exact String.toList_inj.mp (htrim.antisymm hkept)
  · rintro ⟨hrooted, hopen, htrimmed⟩
    have hbare : settings.bareMount = settings.mount.toList := by
      rw [bareMount, trim_eq_self_iff.mpr htrimmed, List.rdropWhile_eq_self_iff]
      intro hne hslash
      rw [List.getLast?_eq_some_getLast hne, beq_iff_eq.mp hslash] at hopen
      exact hopen rfl
    rw [← String.toList_inj, toList_basePath, hbare, if_pos]
    simpa using hrooted

end Form

/-- A base path is empty or has a slash in front, has none at the end, and has no blank in front. It
    has no blank at the end either, and settings with it for a mount give it back, exactly if the mount
    hides no blank before the slashes at its end. Then a router with those settings takes the same off
    the targets of requests and puts the same in front of the places it sends clients to. -/
theorem basePath_canonical {World : Type} (settings : Settings) :
    let base := settings.basePath
    (base = "" ∨ base.toList.head? = some '/') ∧ base.toList.getLast? ≠ some '/' ∧
      (∀ c ∈ base.toList.head?, isBlank c = false) ∧
      (IsTrimmed base ↔ ¬HidesBlank settings.mount) ∧
      ∀ saved : Settings, saved.mount = base →
        (saved.basePath = base ↔ ¬HidesBlank settings.mount) ∧
        (¬HidesBlank settings.mount → ∀ (router : Router World),
          (router.withSettings saved).normalizePath = (router.withSettings settings).normalizePath ∧
          (router.withSettings saved).redirectLocation =
            (router.withSettings settings).redirectLocation) := by
  intro base
  refine ⟨settings.rooted_basePath, settings.openEnd_basePath, settings.isBlank_head_basePath,
    settings.isTrimmed_basePath_iff, fun saved hsaved => ?_⟩
  have hidempotent : saved.basePath = base ↔ ¬HidesBlank settings.mount := by
    rw [← hsaved, saved.basePath_eq_mount_iff, hsaved, ← settings.isTrimmed_basePath_iff]
    exact ⟨fun h => h.trimmed, fun h => ⟨settings.rooted_basePath, settings.openEnd_basePath, h⟩⟩
  refine ⟨hidempotent, fun hhides router => ?_⟩
  have hsame : (router.withSettings saved).settings.basePath =
      (router.withSettings settings).settings.basePath := hidempotent.mpr hhides
  constructor
  · funext uri
    rw [Router.normalizePath, Router.normalizePath, hsame]
  · funext target
    rw [Router.redirectLocation, Router.redirectLocation, hsame]

theorem basePath_canonical_nested :
    ({ mount := " my/app// " } : Settings).basePath = "/my/app" ∧
      ({ mount := "/my/app", debug := true } : Settings).basePath = "/my/app" := by
  have hbase : ({ mount := " my/app// " } : Settings).basePath = "/my/app" := by decide +kernel
  have hhides : ¬HidesBlank " my/app// " := by
    rw [← isTrimmed_basePath_iff { mount := " my/app// " }, hbase]
    decide
  have hcanonical := @basePath_canonical Unit { mount := " my/app// " }
  dsimp only at hcanonical
  rw [hbase] at hcanonical
  obtain ⟨-, -, -, -, hsaved⟩ := hcanonical
  exact ⟨hbase, (hsaved { mount := "/my/app", debug := true } rfl).1.mpr hhides⟩

/-- A blank between the name of a mount and a slash at its end stays in the base path. It is gone once
    the base path is taken for the mount, and only then requests are found below it. -/
theorem basePath_keeps_blank :
    let settings : Settings := { mount := "/app /" }
    let saved : Settings := { mount := settings.basePath }
    let router : Router Unit := { routes := [], default := .notFound }
    settings.basePath = "/app " ∧ ¬IsTrimmed settings.basePath ∧ saved.basePath = "/app" ∧
      (router.withSettings settings).normalizePath "/app/users" = "/app/users" ∧
      (router.withSettings saved).normalizePath "/app/users" = "/users" := by
  intro settings saved router
  have hbase : settings.basePath = "/app " := by decide +kernel
  have hsaved : saved.basePath = "/app" := by decide +kernel
  refine ⟨hbase, ?_, hsaved, ?_, ?_⟩
  · rw [hbase]
    decide
  · decide +kernel
  · decide +kernel

end HttpRouter.Settings
