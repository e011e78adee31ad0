import FlyEvents.ViewModels.CatalogueCall

/-! # Every run of a catalogue load is exact

On a fresh view model, whatever the order of the downloads, the load completes
once, after its last download, and the published sections hold the models of
the options with a known service and an image, each as often as its option was
listed. The priced services are ordered by price, the decorations by title.
-/

namespace FlyEvents

variable {Image : Type}

open ServicesViewModel

/-- The published sections are the catalogue of the listed options: four
lists, each a permutation of the models of its service, in the order of the
predicate of the service. -/
structure ShowsCatalogue (platform : Platform Image) (image : Nat → Option Image)
    (services : List ServiceOptions) (sections : List (List (ServiceOptionModel Image))) :
    Prop where
  length : sections.length = 4
  exact : ∀ service : Service, ∃ options, sections[service.sectionIndex]? = some options ∧
    options.Perm (published image service services.zipIdx)
  byPrice : ∀ (service : Service) (options : List (ServiceOptionModel Image)),
    service ≠ .decor → sections[service.sectionIndex]? = some options →
    options.Pairwise fun first second => first.price ≤ second.price
  byTitle : ∀ options : List (ServiceOptionModel Image),
    sections[Service.decor.sectionIndex]? = some options →
    options.Pairwise fun first second => platform.titleLess second.title first.title = false

theorem loaded_showsCatalogue (platform : Platform Image) (getData : Nat → GetDataReply)
    {services : List ServiceOptions} {downloads : List Download}
    (hperm : downloads.Perm
      ((populateServicesModels platform getData).tasks services.zipIdx)) :
    ShowsCatalogue platform (platform.image getData) services
      (({} : ServicesViewModel Image).loaded platform getData downloads).servicesSections := by
  have hordered : ∀ service options,
      (({} : ServicesViewModel Image).loaded platform getData
        downloads).servicesSections[service.sectionIndex]? = some options →
      Ordered (platform.less service) options := by
    intro service options hsection
    rw [loaded_getElem?, loaded_fresh_options, Option.some.injEq] at hsection
    rw [← hsection]
    exact platform.sorting.ordered _ (platform.less_strictWeak service) _
  refine ⟨rfl, fun service => ⟨_, loaded_getElem? .., ?_⟩, ?_, ?_⟩
  · rw [loaded_fresh_options]
    exact (platform.sorting.perm _ _).trans (filed_perm platform getData hperm)
  · intro service options hpriced hsection
    refine (hordered service options hsection).imp fun {first second} h => ?_
    cases service with
    | decor => exact absurd rfl hpriced
    | _ => simpa [Platform.less] using h
  · intro options hsection
    exact hordered .decor options hsection

/-- A load of any list of options on a fresh view model, at any point of any
run. Halted configurations are those in which every callback has run and the
group has nothing left to wait for; no run goes on for ever. -/
theorem populating_exact (platform : Platform Image) (getData : Nat → GetDataReply)
    (services : List ServiceOptions) (actions : List TaskGroup.Action)
    (config : TaskGroup.Config (ServiceOptions × Nat) Download (Loading Image))
    (hrun : (populateServicesModels platform getData).step.run
      (({} : ServicesViewModel Image).populating services) actions = some config) :
    0 ≤ config.count ∧
    actions.length ≤ 2 * services.length + 2 ∧
    (config.store.completions = [] ∨ config.store.completions = [true]) ∧
    ((populateServicesModels platform getData).step.Halted config →
      config.store.completions = [true]) ∧
    (config.store.completions ≠ [] →
      config.todo = [] ∧ config.pending = [] ∧
      ShowsCatalogue platform (platform.image getData) services
        config.store.viewModel.servicesSections) := by
  obtain ⟨downloads, hinvariant⟩ := (populateServicesModels platform getData).invariant_run hrun
  have hlength := (populateServicesModels platform getData).run_length_le hrun
  have hcount : 0 ≤ config.count := by
    rw [hinvariant.count]
    exact Int.natCast_nonneg _
  have hcompletions := populating_completions platform getData hinvariant
  refine ⟨hcount, ?_, ?_, ?_, ?_⟩
  · simpa [TaskGroup.Program.remaining, populating, TaskGroup.initial] using hlength
  · rw [hcompletions]
    split
    · exact Or.inr rfl
    · exact Or.inl rfl
  · intro hhalted
    rw [hcompletions, if_pos]
    exact (populateServicesModels platform getData).finished_of_halted hinvariant hhalted
  · intro hcompleted
    have hfinished : config.phase = .finished := by
      by_contra hnot
      exact hcompleted (by rw [hcompletions, if_neg hnot])
    obtain ⟨downloads, hperm, hstore⟩ := populating_finished platform getData hrun hfinished
    refine ⟨hinvariant.loop (by simp [hfinished]), hinvariant.drained hfinished, ?_⟩
    rw [hstore]
    exact loaded_showsCatalogue platform getData hperm

/-- Two decorations whose titles and prices are ordered the other way round. -/
def decorations : List ServiceOptions :=
  [⟨"Balloons", 100, "wedding", "DECOR", "gs://fly/decor/1.png", "1"⟩,
    ⟨"Arch", 400, "wedding", "DECOR", "gs://fly/decor/2.png", "2"⟩]

/-- Loading the two decorations, the second download first. -/
def decorationsRun : List TaskGroup.Action :=
  [.iterate, .callback 0, .iterate, .register, .callback 0, .notify]

theorem populating_exact_decorations :
    ∃ config, (populateServicesModels Platform.plain fun _ => GetDataReply.ofData).step.run
        (({} : ServicesViewModel Unit).populating decorations) decorationsRun = some config ∧
      0 ≤ config.count :=
  ⟨_, rfl, (populating_exact Platform.plain (fun _ => GetDataReply.ofData) decorations
    decorationsRun _ rfl).1⟩

/-- The decorations are published in the order of their titles, against the
order of their prices. -/
theorem decorations_not_byPrice :
    ∃ config, (populateServicesModels Platform.plain fun _ => GetDataReply.ofData).step.run
        (({} : ServicesViewModel Unit).populating decorations) decorationsRun = some config ∧
      config.store.completions = [true] ∧
      ∃ options, config.store.viewModel.servicesSections[3]? = some options ∧
        ¬ options.Pairwise fun first second => first.price ≤ second.price :=
  ⟨_, rfl, rfl, _, rfl, by decide⟩

end FlyEvents
