import FlyEvents.ViewModels.CatalogueCall
import FlyEvents.ViewModels.CatalogueRuns

/-! # Loading a catalogue again on the same view model

The fetched options and the four arrays of the view model are never emptied.
A later call appends to them, and passes all options fetched so far on to the
loader. The results here say what a sequence of calls leaves in the sections,
and when that is what the last query returned.
-/

namespace FlyEvents

variable {Image : Type}

open ServicesViewModel

/-- The options the listed calls have fetched. -/
def fetchedBy (calls : List Call) : List ServiceOptions := calls.flatMap Call.returned

/-- Calls of `getServices`, each begun after the completion of the previous. -/
inductive CallsRun (platform : Platform Image) :
    ServicesViewModel Image → List Call → ServicesViewModel Image → Prop
  | nil (viewModel) : CallsRun platform viewModel [] viewModel
  | cons {before middle after call rest} (head : Call.Completes platform call before middle)
      (tail : CallsRun platform middle rest after) :
      CallsRun platform before (call :: rest) after

theorem exists_callsRun (platform : Platform Image) (calls : List Call)
    (viewModel : ServicesViewModel Image) : ∃ after, CallsRun platform viewModel calls after := by
  induction calls generalizing viewModel with
  | nil => exact ⟨viewModel, .nil viewModel⟩
  | cons call rest ih =>
      obtain ⟨after, htail⟩ := ih (call.loadedInOrder platform viewModel)
      exact ⟨after, .cons (call.completes_loadedInOrder platform viewModel) htail⟩

/-- The models that the listed calls add to the array of a service when the
calls before them have fetched the listed options. -/
def contributed (platform : Platform Image) (service : Service) :
    List ServiceOptions → List Call → List (ServiceOptionModel Image)
  | _, [] => []
  | fetched, call :: rest =>
      published (platform.image call.getData) service (call.passed fetched).zipIdx ++
        contributed platform service (fetched ++ call.returned) rest

/-- Over a sequence of calls the arrays accumulate. -/
theorem CallsRun.spec {platform : Platform Image} {before after : ServicesViewModel Image}
    {calls : List Call} (hcalls : CallsRun platform before calls after) :
    after.serviceOptions = before.serviceOptions ++ fetchedBy calls ∧
    ∀ service, (after.options service).Perm
      (before.options service ++ contributed platform service before.serviceOptions calls) := by
  induction hcalls with
  | nil viewModel => simp [fetchedBy, contributed]
  | cons head tail ih =>
      obtain ⟨hfetched, hoptions, -⟩ := head.spec
      refine ⟨?_, fun service => ?_⟩
      · rw [ih.1, hfetched, fetchedBy, fetchedBy, List.flatMap_cons, List.append_assoc]
      · have htail := ih.2 service
        rw [hfetched] at htail
        refine htail.trans ?_
        rw [contributed, ← List.append_assoc]
        exact (hoptions service).append_right _

theorem CallsRun.append_singleton {platform : Platform Image}
    {before after : ServicesViewModel Image} {calls : List Call} {last : Call}
    (hcalls : CallsRun platform before (calls ++ [last]) after) :
    ∃ middle, CallsRun platform before calls middle ∧ last.Completes platform middle after := by
  induction calls generalizing before with
  | nil =>
      cases hcalls with
      | cons head tail =>
          cases tail
          exact ⟨before, .nil before, head⟩
  | cons call rest ih =>
      cases hcalls with
      | cons head tail =>
          obtain ⟨middle, hrest, hlast⟩ := ih tail
          exact ⟨middle, .cons head hrest, hlast⟩

/-- The sections hold exactly the options the last query returned that have a
known service and an image, each as often as it was returned. The downloads of
these options are numbered after those of the options fetched earlier. -/
def ShowsLast (platform : Platform Image) (earlier : List Call) (last : Call)
    (viewModel : ServicesViewModel Image) : Prop :=
  ∀ service : Service, ∃ options,
    viewModel.servicesSections[service.sectionIndex]? = some options ∧
    options.Perm (published (platform.image last.getData) service
      (last.returned.zipIdx (fetchedBy earlier).length))

/-- No option with a known service among the numbered ones gets an image. -/
def NoneDownloaded (platform : Platform Image) (call : Call)
    (numbered : List (ServiceOptions × Nat)) : Prop :=
  ∀ option position, (option, position) ∈ numbered →
    (Service.ofName? option.service).isSome → platform.image call.getData position = none

theorem noneDownloaded_iff (platform : Platform Image) (call : Call)
    (numbered : List (ServiceOptions × Nat)) :
    NoneDownloaded platform call numbered ↔
      ∀ service, published (platform.image call.getData) service numbered = [] := by
  simp only [List.eq_nil_iff_forall_not_mem]
  constructor
  · intro hnone service model hmem
    obtain ⟨option, position, picture, hoption, hservice, hpicture, -⟩ :=
      mem_published_iff.mp hmem
    have hmissing := hnone option position hoption (by simp [hservice])
    rw [hmissing] at hpicture
    cases hpicture
  · intro hempty option position hoption hknown
    obtain ⟨service, hservice⟩ := Option.isSome_iff_exists.mp hknown
    cases himage : platform.image call.getData position with
    | none => rfl
    | some picture =>
        exact absurd (mem_published_iff.mpr ⟨option, position, picture, hoption,
          Service.ofName?_eq_some_iff.mp hservice, himage, rfl⟩) (hempty service _)

theorem contributed_eq_nil_iff (platform : Platform Image) (fetched : List ServiceOptions)
    (calls : List Call) :
    (∀ service, contributed platform service fetched calls = []) ↔
      ∀ before call after, calls = before ++ call :: after →
        NoneDownloaded platform call (call.passed (fetched ++ fetchedBy before)).zipIdx := by
  induction calls generalizing fetched with
  | nil => simp [contributed]
  | cons head rest ih =>
      simp only [contributed, List.append_eq_nil_iff, forall_and, ← noneDownloaded_iff, ih]
      constructor
      · rintro ⟨hhead, hrest⟩ before call after heq
        cases before with
        | nil =>
            obtain ⟨rfl, -⟩ := List.cons.inj heq
            simpa [fetchedBy] using hhead
        | cons first before =>
            simp only [List.cons_append, List.cons.injEq] at heq
            obtain ⟨rfl, heq⟩ := heq
            simpa [fetchedBy, List.append_assoc] using hrest before call after heq
      · intro hall
        refine ⟨by simpa [fetchedBy] using hall [] head rest rfl, ?_⟩
        rintro before call after rfl
        simpa [fetchedBy, List.append_assoc] using hall (head :: before) call after rfl

/-- Nothing that an earlier call fetched is downloaded: not by an earlier call,
and not by the last one, which downloads it again unless its query fails. -/
def NothingStale (platform : Platform Image) (earlier : List Call) (last : Call) : Prop :=
  (∀ before call after, earlier = before ++ call :: after →
    NoneDownloaded platform call (call.passed (fetchedBy before)).zipIdx) ∧
  (last.Succeeded → NoneDownloaded platform last (fetchedBy earlier).zipIdx)

theorem append_perm_right_iff {α : Type} {first : List α} (second : List α) :
    (first ++ second).Perm second ↔ first = [] := by
  constructor
  · intro hperm
    have hlength := hperm.length_eq
    rw [List.length_append] at hlength
    exact List.length_eq_zero_iff.mp (by omega)
  · rintro rfl
    exact .refl _

theorem published_passed (platform : Platform Image) (service : Service) (last : Call)
    (fetched : List ServiceOptions) :
    published (platform.image last.getData) service (last.passed fetched).zipIdx =
      (if last.Succeeded then published (platform.image last.getData) service fetched.zipIdx
        else []) ++
      published (platform.image last.getData) service
        (last.returned.zipIdx fetched.length) := by
  unfold Call.passed
  split
  next hsucceeded => rw [List.zipIdx_append, published_append, Nat.zero_add]
  next hfailed => simp [Call.returned, hfailed, published]

/-- The models in the array of a service that the last query did not return:
those of the earlier calls, and what the last call downloads again. -/
def stale (platform : Platform Image) (earlier : List Call) (last : Call) (service : Service) :
    List (ServiceOptionModel Image) :=
  contributed platform service [] earlier ++
    if last.Succeeded then
      published (platform.image last.getData) service (fetchedBy earlier).zipIdx
    else []

theorem stale_eq_nil_iff (platform : Platform Image) (earlier : List Call) (last : Call) :
    (∀ service, stale platform earlier last service = []) ↔
      NothingStale platform earlier last := by
  simp only [stale, List.append_eq_nil_iff, forall_and, contributed_eq_nil_iff,
    List.nil_append, NothingStale, noneDownloaded_iff]
  apply and_congr_right
  intro _
  by_cases hsucceeded : last.Succeeded <;> simp [hsucceeded]

/-- Each section ends with what the last query returned, behind what is stale. -/
theorem CallsRun.sections {platform : Platform Image} {earlier : List Call} {last : Call}
    {after : ServicesViewModel Image} (hcalls : CallsRun platform {} (earlier ++ [last]) after)
    (service : Service) :
    after.servicesSections[service.sectionIndex]? = some (after.options service) ∧
    (after.options service).Perm (stale platform earlier last service ++
      published (platform.image last.getData) service
        (last.returned.zipIdx (fetchedBy earlier).length)) := by
  obtain ⟨middle, hearlier, hlast⟩ := hcalls.append_singleton
  obtain ⟨hfetched, hoptions⟩ := hearlier.spec
  obtain ⟨-, hadded, hsections⟩ := hlast.spec
  refine ⟨section_getElem? hsections service, (hadded service).trans ?_⟩
  have hstart : ({} : ServicesViewModel Image).options service = [] := by
    cases service <;> rfl
  have hmiddle := hoptions service
  rw [hstart, List.nil_append] at hmiddle
  rw [hfetched, List.nil_append, published_passed, stale, List.append_assoc]
  exact hmiddle.append_right _

theorem CallsRun.showsLast_iff {platform : Platform Image} {earlier : List Call} {last : Call}
    {after : ServicesViewModel Image} (hcalls : CallsRun platform {} (earlier ++ [last]) after) :
    ShowsLast platform earlier last after ↔ NothingStale platform earlier last := by
  rw [← stale_eq_nil_iff]
  apply forall_congr'
  intro service
  obtain ⟨hsection, hperm⟩ := hcalls.sections service
  rw [← append_perm_right_iff (published (platform.image last.getData) service
    (last.returned.zipIdx (fetchedBy earlier).length))]
  simp only [hsection, Option.some.injEq, exists_eq_left']
  exact ⟨fun h => hperm.symm.trans h, fun h => hperm.trans h⟩

/-- After calls on a fresh view model the sections show the result of the last
query, in every run, if and only if nothing stale is downloaded. -/
theorem reload_shows_last_iff (platform : Platform Image) (earlier : List Call) (last : Call) :
    (∀ after, CallsRun platform {} (earlier ++ [last]) after →
      ShowsLast platform earlier last after) ↔
    NothingStale platform earlier last := by
  constructor
  · intro hall
    -- One run is enough: what is stale does not depend on it.
    obtain ⟨after, hcalls⟩ := exists_callsRun platform (earlier ++ [last]) {}
    exact hcalls.showsLast_iff.mp (hall after hcalls)
  · intro hnothing after hcalls
    exact hcalls.showsLast_iff.mpr hnothing

/-- The wedding catalogue with one disc jockey, all of whose requests succeed. -/
def discJockeyCall : Call where
  event := .wedding
  collection _ :=
    { snapshot := some
        [ServiceOptions.encode ⟨"Mixed", 300, "wedding", "DJ", "gs://fly/dj/1.png", "1"⟩]
      error := none }
  getData _ := GetDataReply.ofData

/-- The call again: its option was fetched twice and is shown three times. -/
theorem discJockeyCall_repeated :
    ∃ middle after, discJockeyCall.Completes Platform.plain {} middle ∧
      discJockeyCall.Completes Platform.plain middle after ∧
      middle.servicesSections ≠ after.servicesSections ∧
      ¬ ShowsLast Platform.plain [discJockeyCall] discJockeyCall after := by
  refine ⟨_, _, ⟨[.iterate, .register, .callback 0, .notify], _, rfl, rfl, rfl⟩,
    ⟨[.iterate, .iterate, .register, .callback 0, .callback 0, .notify], _, rfl, rfl, rfl⟩,
    by decide, ?_⟩
  intro hshows
  obtain ⟨options, hsection, hperm⟩ := hshows .dj
  have hlength := hperm.length_eq
  cases hsection
  exact absurd hlength (by decide)

end FlyEvents
