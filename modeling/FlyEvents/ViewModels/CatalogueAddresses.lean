import FlyEvents.Backend.StorageReference
import FlyEvents.ViewModels.CatalogueCall

/-! # Picture addresses of the catalogue

The loop of `populateServicesModels` asks the storage for a reference to the
picture of every option with a known service. An address the storage does not
accept ends the process there, with all that is in flight. The results below
compare this with leaving out the one option.
-/

namespace FlyEvents

open ServicesViewModel

variable {Image Character : Type} [DecidableEq Character]

/-- The option starts a download, and its address ends the process. -/
def Storage.rejects (storage : Storage Character) (option : ServiceOptions) : Bool :=
  (Service.ofName? option.service).isSome && !storage.acceptsURL option.imageURL

theorem Storage.rejects_eq_false_iff {storage : Storage Character} {option : ServiceOptions} :
    storage.rejects option = false ↔
      ((Service.ofName? option.service).isSome = true →
        storage.acceptsURL option.imageURL = true) := by
  unfold rejects
  cases (Service.ofName? option.service).isSome <;> simp

/-- An iteration of the loop over such an option. -/
def Storage.fatal (storage : Storage Character)
    (config : TaskGroup.Config (ServiceOptions × Nat) Download (Loading Image)) :
    TaskGroup.Action → Bool
  | .iterate =>
      match config.phase, config.todo with
      | .looping, option :: _ => storage.rejects option.1
      | _, _ => false
  | _ => false

/-- `populateServicesModels` in a process that ends at the first such iteration. -/
def populatingProcess (storage : Storage Character) (platform : Platform Image)
    (getData : Nat → GetDataReply) :
    Machine (Option (TaskGroup.Config (ServiceOptions × Nat) Download (Loading Image)))
      TaskGroup.Action :=
  (populateServicesModels platform getData).step.ending storage.fatal

/-- The image for the option at a position: none if its address is not accepted,
as if its download had failed. -/
def acceptedImage (storage : Storage Character) (platform : Platform Image)
    (getData : Nat → GetDataReply) (services : List ServiceOptions) (position : Nat) :
    Option Image :=
  match services[position]? with
  | some option =>
      if storage.acceptsURL option.imageURL then platform.image getData position else none
  | none => none

/-- Every run ends with the completion called once, and with the catalogue of
all options but those without an image, be it for their address or for their
download. -/
structure CostsOnlyItsOption (storage : Storage Character) (platform : Platform Image)
    (getData : Nat → GetDataReply) (services : List ServiceOptions)
    (viewModel : ServicesViewModel Image) : Prop where
  bounded : ∃ bound, ∀ actions process, (populatingProcess storage platform getData).run
    (some (viewModel.populating services)) actions = some process → actions.length ≤ bound
  completes : ∀ actions process, (populatingProcess storage platform getData).run
      (some (viewModel.populating services)) actions = some process →
    (populatingProcess storage platform getData).Halted process →
    ∃ config, process = some config ∧ config.store.completions = [true] ∧
      config.store.viewModel.servicesSections =
        Service.all.map config.store.viewModel.options ∧
      ∀ service, (config.store.viewModel.options service).Perm (viewModel.options service ++
        published (acceptedImage storage platform getData services) service services.zipIdx)

variable {storage : Storage Character} {platform : Platform Image}
  {getData : Nat → GetDataReply}

variable (storage platform getData) in
theorem populatingProcess_measure (process : Option _) (action : TaskGroup.Action)
    (next : Option _)
    (hstep : populatingProcess storage platform getData process action = some next) :
    next.elim 0 (fun config => TaskGroup.Program.remaining config + 1) <
      process.elim 0 (fun config => TaskGroup.Program.remaining config + 1) :=
  Machine.ending_measure_lt TaskGroup.Program.remaining
    (fun _ _ _ hstep => (populateServicesModels platform getData).remaining_step hstep)
    process action next hstep

/-- Along a run without a fatal iteration, the loop has only passed options that
are not rejected. -/
theorem passed_not_rejected {services : List ServiceOptions}
    {viewModel : ServicesViewModel Image} {actions : List TaskGroup.Action}
    {config : TaskGroup.Config (ServiceOptions × Nat) Download (Loading Image)}
    (hrun : (populateServicesModels platform getData).step.run (viewModel.populating services)
      actions = some config)
    (halong : Machine.Along (populateServicesModels platform getData).step
      (fun config action => storage.fatal config action = false)
      (viewModel.populating services) actions) :
    ∀ option ∈ services.zipIdx, option ∈ config.todo ∨ storage.rejects option.1 = false := by
  refine Machine.run_invariant_of_along (fun config : TaskGroup.Config _ _ _ =>
    ∀ option ∈ services.zipIdx, option ∈ config.todo ∨ storage.rejects option.1 = false)
    ?_ (fun option hmem => .inl hmem) halong hrun
  intro config action next hpassed hsafe hstep option hmem
  -- An iteration takes the first option of the list, which is not rejected.
  have hiterate : ∀ item rest, action = .iterate → config.phase = .looping →
      config.todo = item :: rest → option ∈ rest ∨ storage.rejects option.1 = false := by
    rintro item rest rfl hphase htodo
    simp only [Storage.fatal, hphase, htodo] at hsafe
    rcases hpassed option hmem with hwaiting | hdone
    · rw [htodo] at hwaiting
      rcases List.mem_cons.mp hwaiting with rfl | hrest
      · exact .inr hsafe
      · exact .inl hrest
    · exact .inr hdone
  rcases (populateServicesModels platform getData).step_cases hstep with
    ⟨item, rest, task, hiter, hphase, htodo, -, rfl⟩ | ⟨item, rest, hiter, hphase, htodo, -, rfl⟩ |
    ⟨position, task, -, -, rfl⟩ | ⟨-, -, -, rfl⟩ | ⟨-, -, -, rfl⟩
  · exact hiterate item rest hiter hphase htodo
  · exact hiterate item rest hiter hphase htodo
  · exact hpassed option hmem
  · exact hpassed option hmem
  · exact hpassed option hmem

/-- A process whose remaining options are not rejected has not ended. -/
theorem populatingProcess_alive {services : List ServiceOptions}
    {viewModel : ServicesViewModel Image} {actions : List TaskGroup.Action}
    {process : Option (TaskGroup.Config (ServiceOptions × Nat) Download (Loading Image))}
    (haccepted : ∀ option ∈ services, storage.rejects option = false)
    (hrun : (populatingProcess storage platform getData).run
      (some (viewModel.populating services)) actions = some process) :
    ∃ config, process = some config ∧ ∀ action, storage.fatal config action = false := by
  have hfatal : ∀ config : TaskGroup.Config (ServiceOptions × Nat) Download (Loading Image),
      (∀ item ∈ config.todo, storage.rejects item.1 = false) →
      ∀ action, storage.fatal config action = false := by
    intro config htodo action
    unfold Storage.fatal
    split
    next =>
      split
      next item rest hphase hitems => exact htodo item (by simp [hitems])
      next => rfl
    next => rfl
  have halive : ∃ config, process = some config ∧
      ∀ item ∈ config.todo, storage.rejects item.1 = false := by
    refine Machine.run_invariant (fun process => ∃ config, process = some config ∧
      ∀ item ∈ config.todo, storage.rejects item.1 = false) ?_ ?_ hrun
    · rintro _ action next ⟨config, rfl, htodo⟩ hstep
      cases next with
      | none =>
          simp [populatingProcess, Machine.ending, hfatal config htodo action] at hstep
      | some next =>
          obtain ⟨-, hstep⟩ := Machine.ending_eq_some_some_iff.mp hstep
          refine ⟨next, rfl, fun item hitem => htodo item ?_⟩
          rcases (populateServicesModels platform getData).step_cases hstep with
            ⟨first, rest, task, -, -, hitems, -, rfl⟩ | ⟨first, rest, -, -, hitems, -, rfl⟩ |
            ⟨position, task, -, -, rfl⟩ | ⟨-, -, -, rfl⟩ | ⟨-, -, -, rfl⟩
          · rw [hitems]
            exact List.mem_cons_of_mem first hitem
          · rw [hitems]
            exact List.mem_cons_of_mem first hitem
          · exact hitem
          · exact hitem
          · exact hitem
    · refine ⟨_, rfl, ?_⟩
      rintro ⟨option, position⟩ hitem
      exact haccepted option (List.fst_mem_of_mem_zipIdx hitem)
  obtain ⟨config, rfl, htodo⟩ := halive
  exact ⟨config, rfl, hfatal config htodo⟩

/-- The images of accepted addresses are those of the downloads. -/
theorem published_acceptedImage {services : List ServiceOptions}
    (haccepted : ∀ option ∈ services, storage.rejects option = false) (service : Service) :
    published (acceptedImage storage platform getData services) service services.zipIdx =
      published (platform.image getData) service services.zipIdx := by
  apply List.filterMap_congr
  rintro ⟨option, position⟩ hmem
  have hget := List.mk_mem_zipIdx_iff_getElem?.mp hmem
  dsimp only
  split
  next hservice =>
    have hknown : (Service.ofName? option.service).isSome = true := by simp [hservice]
    have hurl := Storage.rejects_eq_false_iff.mp
      (haccepted option (List.mem_of_getElem? hget)) hknown
    simp [acceptedImage, hget, hurl]
  next => rfl

/-- A load that has completed has passed all options, so none of them is rejected. -/
theorem not_rejected_of_completed {services : List ServiceOptions}
    {viewModel : ServicesViewModel Image} {actions : List TaskGroup.Action}
    {config : TaskGroup.Config (ServiceOptions × Nat) Download (Loading Image)}
    (hrun : (populatingProcess storage platform getData).run
      (some (viewModel.populating services)) actions = some (some config))
    (hcompleted : config.store.completions = [true]) :
    ∀ option ∈ services, storage.rejects option = false := by
  intro option hmem
  obtain ⟨hplain, halong⟩ := Machine.run_of_ending_run hrun
  obtain ⟨downloads, hinvariant⟩ := (populateServicesModels platform getData).invariant_run hplain
  have htodo : config.todo = [] := by
    apply hinvariant.loop
    intro hlooping
    rw [populating_completions platform getData hinvariant, hlooping] at hcompleted
    cases hcompleted
  obtain ⟨position, hget⟩ := List.getElem?_of_mem hmem
  have hpassed := passed_not_rejected hplain halong (option, position)
    (List.mk_mem_zipIdx_iff_getElem?.mpr hget)
  rw [htodo] at hpassed
  exact hpassed.resolve_left List.not_mem_nil

/-- With no option rejected, the process runs and comes to rest with the load. -/
theorem populatingProcess_of_accepted {services : List ServiceOptions}
    {viewModel : ServicesViewModel Image} {actions : List TaskGroup.Action}
    {process : Option (TaskGroup.Config (ServiceOptions × Nat) Download (Loading Image))}
    (haccepted : ∀ option ∈ services, storage.rejects option = false)
    (hrun : (populatingProcess storage platform getData).run
      (some (viewModel.populating services)) actions = some process) :
    ∃ config, process = some config ∧
      (populateServicesModels platform getData).step.run (viewModel.populating services) actions =
        some config ∧
      ((populatingProcess storage platform getData).Halted process →
        (populateServicesModels platform getData).step.Halted config) := by
  obtain ⟨config, rfl, hfatal⟩ := populatingProcess_alive haccepted hrun
  exact ⟨config, rfl, (Machine.run_of_ending_run hrun).1, (Machine.ending_halted_iff hfatal).mp⟩

/-- A bad address costs only its own option exactly when there is none: every
option with a known service has an address the storage accepts. -/
theorem costsOnlyItsOption_iff (storage : Storage Character) (platform : Platform Image)
    (getData : Nat → GetDataReply) (services : List ServiceOptions)
    (viewModel : ServicesViewModel Image) :
    CostsOnlyItsOption storage platform getData services viewModel ↔
      ∀ option ∈ services, (Service.ofName? option.service).isSome = true →
        storage.acceptsURL option.imageURL = true := by
  constructor
  · intro hcosts option hmem
    obtain ⟨actions, process, hrun, hhalted⟩ := Machine.exists_run_halted _
      (populatingProcess_measure storage platform getData)
      (some (viewModel.populating services))
    obtain ⟨config, rfl, hcompleted, -⟩ := hcosts.completes actions process hrun hhalted
    exact Storage.rejects_eq_false_iff.mp (not_rejected_of_completed hrun hcompleted option hmem)
  · intro haccepted
    have haccepted : ∀ option ∈ services, storage.rejects option = false :=
      fun option hmem => Storage.rejects_eq_false_iff.mpr (haccepted option hmem)
    refine {
      bounded := ⟨_, fun actions process hrun => Nat.le_trans (Nat.le_add_right _ _)
        (Machine.run_length_le _ (populatingProcess_measure storage platform getData) hrun)⟩
      completes := fun actions process hrun hhalted => ?_ }
    obtain ⟨config, rfl, hplain, hrests⟩ := populatingProcess_of_accepted haccepted hrun
    obtain ⟨_, hinvariant⟩ := (populateServicesModels platform getData).invariant_run hplain
    have hfinished := (populateServicesModels platform getData).finished_of_halted hinvariant
      (hrests hhalted)
    obtain ⟨downloads, hperm, hstore⟩ := populating_finished platform getData hplain hfinished
    refine ⟨config, rfl, by rw [hstore], by rw [hstore]; exact loaded_servicesSections .., ?_⟩
    intro service
    rw [hstore, published_acceptedImage haccepted, loaded_options]
    refine (platform.sorting.perm _ _).trans ?_
    exact (filed_perm platform getData hperm).append_left _

/-- Two discjockeys, of which the second has no picture address. -/
def unaddressed : List ServiceOptions :=
  [⟨"Ana", 300, "wedding", "DJ", "gs://fly/dj/1.png", "1"⟩, ⟨"Dan", 200, "wedding", "DJ", "", "2"⟩]

/-- The process ends in the second iteration, while the first download is in
flight, and no completion is ever called. -/
theorem unaddressed_ends_process :
    (populatingProcess (Storage.ofBucket "fly") Platform.plain fun _ => .ofData).run
      (some (({} : ServicesViewModel Unit).populating unaddressed)) [.iterate, .iterate] =
        some none ∧
    ¬ CostsOnlyItsOption (Storage.ofBucket "fly") Platform.plain (fun _ => .ofData) unaddressed
      {} := by
  refine ⟨by rfl, ?_⟩
  rw [costsOnlyItsOption_iff]
  intro haccepted
  have hempty := haccepted ⟨"Dan", 200, "wedding", "DJ", "", "2"⟩ (by simp [unaddressed]) rfl
  revert hempty
  decide

end FlyEvents
