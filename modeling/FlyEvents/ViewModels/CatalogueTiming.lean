import FlyEvents.ViewModels.CatalogueRuns

/-! # The published order and the order of the downloads

The models of a service are appended as their downloads end and then sorted by
one key. With a stable sort, models with the same key keep the order in which
they arrived; the order of the downloads is therefore visible exactly when two
different models of one service have the same key.
-/

namespace FlyEvents

variable {Image : Type}

open ServicesViewModel

/-- Any two options of one service whose images were downloaded, and whose
models the sort of the service does not tell apart, have the same model. -/
def TiesEqual (platform : Platform Image) (image : Nat → Option Image)
    (services : List ServiceOptions) : Prop :=
  ∀ (service : Service) (first second : ServiceOptions × Nat) (firstImage secondImage : Image),
    first ∈ services.zipIdx → second ∈ services.zipIdx →
    first.1.service = service.name → second.1.service = service.name →
    image first.2 = some firstImage → image second.2 = some secondImage →
    tied (platform.less service) (first.1.model firstImage) (second.1.model secondImage) = true →
    first.1.model firstImage = second.1.model secondImage

theorem TiesEqual.of_mem_published {platform : Platform Image} {image : Nat → Option Image}
    {services : List ServiceOptions} (hties : TiesEqual platform image services)
    {service : Service} {first second : ServiceOptionModel Image}
    (hfirst : first ∈ published image service services.zipIdx)
    (hsecond : second ∈ published image service services.zipIdx)
    (htied : tied (platform.less service) first second = true) : first = second := by
  obtain ⟨option, position, picture, hmem, hservice, hpicture, rfl⟩ := mem_published_iff.mp hfirst
  obtain ⟨other, place, photo, hother, hsame, hphoto, rfl⟩ := mem_published_iff.mp hsecond
  exact hties service (option, position) (other, place) picture photo hmem hother hservice hsame
    hpicture hphoto htied

/-- The published sections of a fresh load, section by section. -/
theorem loaded_servicesSections_eq_iff (platform : Platform Image)
    (getData : Nat → GetDataReply) (first second : List Download) :
    (({} : ServicesViewModel Image).loaded platform getData first).servicesSections =
        (({} : ServicesViewModel Image).loaded platform getData second).servicesSections ↔
      ∀ service,
        platform.sorting.sort (platform.less service) (filed platform getData service first) =
          platform.sorting.sort (platform.less service)
            (filed platform getData service second) := by
  constructor
  · intro heq service
    have hsection := loaded_getElem? platform getData {} first service
    rw [heq, loaded_getElem?, loaded_fresh_options, loaded_fresh_options] at hsection
    exact (Option.some.inj hsection).symm
  · intro hsorted
    rw [loaded_servicesSections, loaded_servicesSections]
    refine List.map_congr_left fun service _ => ?_
    rw [loaded_fresh_options, loaded_fresh_options, hsorted service]

/-- A download the loop starts for an option of a service. -/
theorem download_mem_tasks (platform : Platform Image) (getData : Nat → GetDataReply)
    {service : Service} {option : ServiceOptions} {position : Nat}
    {numbered : List (ServiceOptions × Nat)} (hmem : (option, position) ∈ numbered)
    (hservice : option.service = service.name) :
    ({ position, service := option, branch := service } : Download) ∈
      (populateServicesModels platform getData).tasks numbered := by
  refine List.mem_filterMap.mpr ⟨(option, position), hmem, ?_⟩
  simp [populateServicesModels, hservice]

/-- Any two of a list's elements can be its first two. -/
theorem exists_perm_cons_cons {α : Type} [DecidableEq α] {list : List α} {one other : α}
    (hone : one ∈ list) (hother : other ∈ list) (hne : other ≠ one) :
    ∃ rest, (one :: other :: rest).Perm list := by
  have hrest : other ∈ list.erase one := (List.mem_erase_of_ne hne).mpr hother
  refine ⟨(list.erase one).erase other, ?_⟩
  have htail := (List.perm_cons_erase hrest).symm.cons one
  exact htail.trans (List.perm_cons_erase hone).symm

/-- Where two tied options have images, the order in which their downloads end
shows in the sections, unless their models are equal. -/
theorem model_eq_of_swapped {platform : Platform Image} (hstable : platform.sorting.Stable)
    {getData : Nat → GetDataReply} {service : Service} {first second : ServiceOptions × Nat}
    {firstImage secondImage : Image}
    (hfirst : platform.image getData first.2 = some firstImage)
    (hsecond : platform.image getData second.2 = some secondImage)
    (htied : tied (platform.less service) (first.1.model firstImage)
      (second.1.model secondImage) = true)
    {one other : Download} (hone : one = ⟨first.2, first.1, service⟩)
    (hother : other = ⟨second.2, second.1, service⟩) {rest : List Download}
    (hsections : (({} : ServicesViewModel Image).loaded platform getData
        (one :: other :: rest)).servicesSections =
      (({} : ServicesViewModel Image).loaded platform getData
        (other :: one :: rest)).servicesSections) :
    first.1.model firstImage = second.1.model secondImage := by
  rw [loaded_servicesSections_eq_iff] at hsections
  have hweak := platform.less_strictWeak service
  have hfilter := (hstable.sort_eq_iff hweak).mp (hsections service) (first.1.model firstImage)
  have hself := tied_self hweak (first.1.model firstImage)
  -- Both lists of tied models begin with the two options, in the order of the downloads.
  subst hone hother
  simp only [filed, List.filterMap_cons, hfirst, hsecond, Option.map_some,
    ↓reduceIte, List.filter_cons, hself, htied, List.cons.injEq] at hfilter
  exact hfilter.1

/-- With a stable sort, every two completed loads of the same options with the
same downloads publish the same sections, in whatever order the downloads end,
if and only if tied options have equal models. -/
theorem sections_timing_iff (platform : Platform Image) (hstable : platform.sorting.Stable)
    (getData : Nat → GetDataReply) (services : List ServiceOptions) :
    (∀ firstActions first secondActions second,
      (populateServicesModels platform getData).step.run
        (({} : ServicesViewModel Image).populating services) firstActions = some first →
      (populateServicesModels platform getData).step.run
        (({} : ServicesViewModel Image).populating services) secondActions = some second →
      first.phase = .finished → second.phase = .finished →
      first.store.viewModel.servicesSections = second.store.viewModel.servicesSections) ↔
    TiesEqual platform (platform.image getData) services := by
  constructor
  · intro hsame service first second firstImage secondImage hfirst hsecond hservice hservice'
      himage himage' htied
    by_cases hposition : first.2 = second.2
    · have hoption : first = second := by
        have hget := List.mem_zipIdx_iff_getElem?.mp hfirst
        rw [hposition, List.mem_zipIdx_iff_getElem?.mp hsecond] at hget
        exact Prod.ext (Option.some.inj hget).symm hposition
      subst hoption
      rw [himage, Option.some.injEq] at himage'
      rw [himage']
    · have hone := download_mem_tasks platform getData hfirst hservice
      have hother := download_mem_tasks platform getData hsecond hservice'
      obtain ⟨rest, hperm⟩ := exists_perm_cons_cons hone hother
        fun heq => hposition (congrArg Download.position heq).symm
      obtain ⟨firstActions, firstConfig, hrun, hfinished, hstore⟩ :=
        exists_populating_run platform getData services {} _ hperm
      obtain ⟨secondActions, secondConfig, hrun', hfinished', hstore'⟩ :=
        exists_populating_run platform getData services {} _
          ((List.Perm.swap ..).trans hperm)
      have hsections := hsame _ _ _ _ hrun hrun' hfinished hfinished'
      rw [hstore, hstore'] at hsections
      exact model_eq_of_swapped hstable himage himage' htied rfl rfl hsections
  · intro hties firstActions first secondActions second hrun hrun' hfinished hfinished'
    obtain ⟨downloads, hperm, hstore⟩ := populating_finished platform getData hrun hfinished
    obtain ⟨downloads', hperm', hstore'⟩ := populating_finished platform getData hrun' hfinished'
    rw [hstore, hstore', loaded_servicesSections_eq_iff]
    intro service
    have hfiled : (filed platform getData service downloads).Perm
        (published (platform.image getData) service services.zipIdx) :=
      filed_perm platform getData hperm
    refine hstable.sort_eq_of_perm (platform.less_strictWeak service)
      (hfiled.trans (filed_perm platform getData hperm').symm) ?_
    intro first hfirst second hsecond htied
    exact hties.of_mem_published (hfiled.mem_iff.mp hfirst) (hfiled.mem_iff.mp hsecond) htied

/-- Two offers of one service at the same price. -/
def samePrice : List ServiceOptions :=
  [⟨"Mixed", 300, "wedding", "DJ", "gs://fly/dj/1.png", "1"⟩,
    ⟨"Vinyl", 300, "wedding", "DJ", "gs://fly/dj/2.png", "2"⟩]

theorem sections_timing_iff_samePrice :
    (∀ firstActions first secondActions second,
      (populateServicesModels Platform.plain fun _ => GetDataReply.ofData).step.run
        (({} : ServicesViewModel Unit).populating samePrice) firstActions = some first →
      (populateServicesModels Platform.plain fun _ => GetDataReply.ofData).step.run
        (({} : ServicesViewModel Unit).populating samePrice) secondActions = some second →
      first.phase = .finished → second.phase = .finished →
      first.store.viewModel.servicesSections = second.store.viewModel.servicesSections) ↔
    TiesEqual Platform.plain (Platform.plain.image fun _ => GetDataReply.ofData) samePrice :=
  sections_timing_iff Platform.plain SortBy.insertion_stable _ _

/-- Two runs of one load that differ in the order of its two downloads, under a
stable sort, and publish different sections. -/
theorem samePrice_order_visible :
    Platform.plain.sorting.Stable ∧ ∃ first second,
      (populateServicesModels Platform.plain fun _ => GetDataReply.ofData).step.run
        (({} : ServicesViewModel Unit).populating samePrice)
        [.iterate, .iterate, .register, .callback 0, .callback 0, .notify] = some first ∧
      (populateServicesModels Platform.plain fun _ => GetDataReply.ofData).step.run
        (({} : ServicesViewModel Unit).populating samePrice)
        [.iterate, .iterate, .register, .callback 1, .callback 0, .notify] = some second ∧
      first.store.completions = [true] ∧ second.store.completions = [true] ∧
      first.store.viewModel.servicesSections ≠ second.store.viewModel.servicesSections :=
  ⟨SortBy.insertion_stable, _, _, rfl, rfl, rfl, rfl, by decide⟩

end FlyEvents
