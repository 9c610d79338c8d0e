import SignedLink.Proofs.Logging.Admission
import SignedLink.Provider.Routed
/-!
# SignedLink — what an activation lets escape

An activation tells five properties one after the other, as details, and only
then looks at them. A property that holds an integer which is too long cannot
be told. So where `DEBUG` is asked for, such properties end the activation with
a fault, even those that a configuration could be made of; at every other level
what they hold does not matter.

* `message_propertyRecord_eq_error_iff`: which properties cannot be told.
* `deliverAll_activate_eq_error_iff`: when the records of an activation end with a fault.
* `activateRouted_eq_error_iff`: when an activation does.
-/

namespace SignedLink.Provider

variable {p : Provider} {before routing : Logging.Routing} {environment : Environment}
  {stamp : Logging.Stamp} {files : FileSystem} {properties : Fields} {name : String} {f : Fault}

/-- A property that cannot be told. -/
def HasUntold (properties : Fields) : Prop :=
  ∃ name ∈ toldProperties, (Fields.get properties name).isWritable = false

theorem message_propertyRecord_eq_error_iff :
    (propertyRecord properties name).message = .error f ↔
      f = .longInteger ∧ (Fields.get properties name).isWritable = false := by
  rw [← Value.told_eq_error_iff, propertyRecord]
  cases (Fields.get properties name).told <;> simp [Except.map]

/-- What an activation writes: the properties, and after them nothing that has no message. -/
theorem exists_records_activate (p : Provider) (files : FileSystem) (properties : Fields) :
    ∃ later, (p.activate files properties).records =
        toldProperties.map (propertyRecord properties) ++ later ∧
      ∀ r ∈ later, ∃ message, r.message = .ok message := by
  unfold activate
  dsimp only
  split
  · exact ⟨[], (List.append_nil _).symm, List.forall_mem_nil _⟩
  · next config _ =>
    refine ⟨[.of Logging.providerLogger .info
      ("CloudFront URI provider activated for " ++ config.baseUrl)], rfl, ?_⟩
    exact List.forall_mem_singleton.mpr ⟨_, rfl⟩

/-- The records of an activation end with a fault exactly when `DEBUG` is asked for and there is a
property that cannot be told. -/
theorem deliverAll_activate_eq_error_iff (origin : Logging.Origin)
    (spared : before.SparesProvider)
    (configured : before.configure environment stamp = .ok routing) :
    routing.deliverAll origin (p.activate files properties).records = .error f ↔
      (Logging.Plan.ofEnvironment environment).level = "DEBUG" ∧ f = .longInteger ∧
        HasUntold properties := by
  have detail := Logging.Routing.passes_providerLogger_iff spared configured .debug (· = "DEBUG")
    (by decide)
  have fault {name : String} {g : Fault} :
      routing.fault? (propertyRecord properties name) = some g ↔
        (Logging.Plan.ofEnvironment environment).level = "DEBUG" ∧ g = .longInteger ∧
          (Fields.get properties name).isWritable = false := by
    rw [Logging.Routing.fault?_of_provider spared configured rfl,
      message_propertyRecord_eq_error_iff]
    exact and_congr_left fun _ => detail
  obtain ⟨later, records, told⟩ := exists_records_activate p files properties
  have silent : later.findSome? routing.fault? = none := by
    rw [List.findSome?_eq_none_iff]
    intro r mem
    rw [Option.eq_none_iff_forall_ne_some]
    intro g found
    obtain ⟨message, worded⟩ := told r mem
    cases worded.symm.trans (Logging.Routing.fault?_eq_some_iff.mp found).2.2
  rw [Logging.Routing.deliverAll_eq_error_iff, records, List.findSome?_append, silent,
    Option.or_none, List.findSome?_map]
  constructor
  · intro found
    obtain ⟨name, mem, here⟩ := List.exists_of_findSome?_eq_some found
    obtain ⟨details, is, long⟩ := fault.mp here
    exact ⟨details, is, name, mem, long⟩
  · rintro ⟨details, rfl, name, mem, long⟩
    -- whichever property is the first, the fault is the same
    have here : routing.fault? (propertyRecord properties name) = some .longInteger :=
      fault.mpr ⟨details, rfl, long⟩
    obtain ⟨g, found⟩ := Option.isSome_iff_exists.mp
      (List.findSome?_isSome_iff (f := routing.fault? ∘ propertyRecord properties).mpr
        ⟨name, mem, Option.isSome_of_eq_some here⟩)
    obtain ⟨other, -, here⟩ := List.exists_of_findSome?_eq_some found
    obtain ⟨-, rfl, -⟩ := fault.mp here
    exact found

/-- An activation ends with a fault exactly when its records do, whatever else is wrong with the
properties. -/
theorem activateRouted_eq_error_iff (origin : Logging.Origin) (spared : before.SparesProvider)
    (configured : before.configure environment stamp = .ok routing) :
    p.activateRouted routing origin files properties = .error f ↔
      (Logging.Plan.ofEnvironment environment).level = "DEBUG" ∧ f = .longInteger ∧
        HasUntold properties := by
  have ends : routing.deliverAll origin (p.activate files properties).records = .error f ↔ _ :=
    deliverAll_activate_eq_error_iff origin spared configured
  rw [← ends, activateRouted]
  cases routing.deliverAll origin (p.activate files properties).records <;> simp [Except.map]

end SignedLink.Provider
