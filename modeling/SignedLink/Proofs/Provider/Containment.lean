import SignedLink.Proofs.Config.Settings
import SignedLink.Proofs.Conversion.Messages
import SignedLink.Proofs.Logging.Admission
import SignedLink.Provider.Routed
/-!
# SignedLink — what a conversion lets escape

A conversion answers with an address or with none, whatever a binary answers
and whatever the clock reads: every failure on the way is contained. But its
record is put together while it is delivered, where nothing is contained any
more. So whether a fault gets out depends on the level that the environment
asks for: at `DEBUG` the length of an issued link is told, and below `CRITICAL`
the identity of a failure.

* `EscapesAt`: what gets out of a conversion under the level asked for.
* `convertRouted_eq_error_iff`: exactly that gets out.
* `convertRouted_contained`: otherwise a conversion ends with its address.
-/

namespace SignedLink.Provider

variable {p : Provider} {before routing : Logging.Routing} {environment : Environment}
  {stamp : Logging.Stamp} {now : Value} {candidate : Candidate} {f : Fault}

/-- What gets out of a conversion where a level is asked for by name. -/
inductive EscapesAt (asked : String) (held : Option SignerConfiguration) (now : Value)
    (candidate : Candidate) (f : Fault) : Prop where
  | detail (admitted : asked = "DEBUG")
      (escapes : Conversion.Escapes held now candidate .debug f) :
      EscapesAt asked held now candidate f
  | failure (admitted : asked ≠ "CRITICAL")
      (escapes : Conversion.Escapes held now candidate .error f) :
      EscapesAt asked held now candidate f

/-- A conversion, which writes one record at most, ends with the fault of its record. -/
theorem convertRouted_eq_error_iff_fault? (origin : Logging.Origin) :
    p.convertRouted routing origin now candidate = .error f ↔
      ∃ r ∈ (p.convert now candidate).records, routing.fault? r = some f := by
  have delivered : p.convertRouted routing origin now candidate = .error f ↔
      routing.deliverAll origin (p.convert now candidate).records = .error f := by
    rw [convertRouted]
    cases routing.deliverAll origin (p.convert now candidate).records <;> simp [Except.map]
  rw [delivered, Logging.Routing.deliverAll_eq_error_iff]
  have few : (p.convert now candidate).records.length ≤ 1 := Conversion.length_records_le ..
  generalize (p.convert now candidate).records = records at few
  match records with
  | [] => simp
  | [r] => simp
  | _ :: _ :: _ => simp at few

/-- A conversion ends with a fault exactly when its record passes and has no message. -/
theorem convertRouted_eq_error_iff (origin : Logging.Origin) (spared : before.SparesProvider)
    (configured : before.configure environment stamp = .ok routing) :
    p.convertRouted routing origin now candidate = .error f ↔
      EscapesAt (Logging.Plan.ofEnvironment environment).level p.config now candidate f := by
  have detail := Logging.Routing.passes_providerLogger_iff spared configured .debug (· = "DEBUG")
    (by decide)
  have failure := Logging.Routing.passes_providerLogger_iff spared configured .error
    (· ≠ "CRITICAL") (by decide)
  have fault {r : Logging.Record} (mem : r ∈ (p.convert now candidate).records) :=
    Logging.Routing.fault?_of_provider (f := f) spared configured
      (Conversion.logger_of_mem_of mem)
  rw [convertRouted_eq_error_iff_fault?]
  constructor
  · rintro ⟨r, mem, found⟩
    obtain ⟨passes, untold⟩ := (fault mem).mp found
    have escapes := Conversion.untold_of_iff.mp ⟨r, mem, rfl, untold⟩
    -- the record is a detail or tells a failure
    generalize r.level = level at passes escapes
    have kind := escapes
    cases kind with
    | length => exact .detail (detail.mp passes) escapes
    | identity => exact .failure (failure.mp passes) escapes
  · rintro (⟨admitted, escapes⟩ | ⟨admitted, escapes⟩)
    · obtain ⟨r, mem, level, untold⟩ := Conversion.untold_of_iff.mpr escapes
      exact ⟨r, mem, (fault mem).mpr ⟨by rw [level]; exact detail.mpr admitted, untold⟩⟩
    · obtain ⟨r, mem, level, untold⟩ := Conversion.untold_of_iff.mpr escapes
      exact ⟨r, mem, (fault mem).mpr ⟨by rw [level]; exact failure.mpr admitted, untold⟩⟩

/-- Where nothing gets out, a conversion ends with the address that it has without its record. -/
theorem exists_convertRouted (origin : Logging.Origin) (spared : before.SparesProvider)
    (configured : before.configure environment stamp = .ok routing)
    (contained : ∀ f, ¬ EscapesAt (Logging.Plan.ofEnvironment environment).level p.config now
      candidate f) :
    ∃ deliveries, p.convertRouted routing origin now candidate =
      .ok ((p.convert now candidate).uri, deliveries) := by
  have noFault := fun f => mt (convertRouted_eq_error_iff origin spared configured).mp (contained f)
  rw [convertRouted] at noFault ⊢
  cases delivered : routing.deliverAll origin (p.convert now candidate).records with
  | error f => exact absurd (by rw [delivered]; rfl) (noFault f)
  | ok deliveries => exact ⟨deliveries, rfl⟩

/-- For any provider, clock and value, under any level that can be asked for, the faults that get
out of a conversion are those of its record, and without one the conversion ends with its address,
or with none. -/
theorem convertRouted_contained (p : Provider) (now : Value) (candidate : Candidate)
    (origin : Logging.Origin) (spared : before.SparesProvider)
    (configured : before.configure environment stamp = .ok routing) :
    (∀ f, p.convertRouted routing origin now candidate = .error f ↔
      EscapesAt (Logging.Plan.ofEnvironment environment).level p.config now candidate f) ∧
    ((∀ f, ¬ EscapesAt (Logging.Plan.ofEnvironment environment).level p.config now candidate f) →
      ∃ deliveries, p.convertRouted routing origin now candidate =
        .ok ((p.convert now candidate).uri, deliveries)) :=
  ⟨fun _ => convertRouted_eq_error_iff origin spared configured,
    exists_convertRouted origin spared configured⟩

/-! ## A length that is no number -/

/-- A binary with a length that is no number. -/
def nanBlob : Blob :=
  ⟨.ok (.real .nan), .ok (.text "abcd")⟩

/-- Its link is signed. -/
theorem exists_signingOf_nanBlob :
    ∃ link,
      Conversion.signingOf Settings.mersenneSigner (.integer 0) (.text "abcd") = .ok link := by
  obtain ⟨link, -, signed, -⟩ := Link.exists_issued "abcd" Settings.mersenneSigner.baseUrl
    Settings.mersenneSigner.keyPairId .mersenneKey Settings.mersenneSigner.ttlSeconds (by decide)
    (by rw [Rsa.PrivateKey.size_mersenneKey]; decide) (.integer 0) (by decide)
  exact ⟨link, signed⟩

/-- At the default level its conversion ends with the address of the link. -/
theorem convertRouted_contained_nanBlob :
    ∃ routing link deliveries,
      Logging.Routing.fresh.configure [] ⟨0, 0, 0⟩ = .ok routing ∧
      convertRouted ⟨some Settings.mersenneSigner⟩ routing ⟨⟨0, 0, 0⟩, none, "", 0⟩ (.integer 0)
        (.binary (some nanBlob)) = .ok (some (Link.url link), deliveries) := by
  obtain ⟨link, signed⟩ := exists_signingOf_nanBlob
  obtain ⟨routing, configured⟩ : ∃ routing,
      Logging.Routing.fresh.configure [] ⟨0, 0, 0⟩ = .ok routing := ⟨_, rfl⟩
  have address : (convert ⟨some Settings.mersenneSigner⟩ (.integer 0)
      (.binary (some nanBlob))).uri = some link.url := by
    show (Conversion.sign Settings.mersenneSigner (.integer 0) (.text "abcd") (.real .nan)).uri = _
    rw [Conversion.signingOf] at signed
    rw [Conversion.sign, signed]
    rfl
  -- details are not told at this level, and the identity is a text
  have contained : ∀ f, ¬ EscapesAt (Logging.Plan.ofEnvironment []).level
      (some Settings.mersenneSigner) (.integer 0) (.binary (some nanBlob)) f := by
    rintro f (⟨details, -⟩ | ⟨-, escapes⟩)
    · exact absurd details (by decide +kernel)
    · cases escapes with
      | identity active known identified kept long =>
        cases identified
        cases long
  obtain ⟨deliveries, ends⟩ := (convertRouted_contained ⟨some Settings.mersenneSigner⟩ (.integer 0)
    (.binary (some nanBlob)) ⟨⟨0, 0, 0⟩, none, "", 0⟩ Logging.Routing.sparesProvider_fresh
    configured).2 contained
  rw [address] at ends
  exact ⟨routing, link, deliveries, configured, ends⟩

/-- When `DEBUG` is asked for, it ends with a fault, after the link was signed. -/
theorem convertRouted_nanBlob_debug :
    ∃ routing,
      Logging.Routing.fresh.configure [("LOG_LEVEL", "DEBUG")] ⟨0, 0, 0⟩ = .ok routing ∧
      convertRouted ⟨some Settings.mersenneSigner⟩ routing ⟨⟨0, 0, 0⟩, none, "", 0⟩ (.integer 0)
        (.binary (some nanBlob)) = .error .wholeOfNan := by
  obtain ⟨link, signed⟩ := exists_signingOf_nanBlob
  obtain ⟨routing, configured⟩ : ∃ routing,
      Logging.Routing.fresh.configure [("LOG_LEVEL", "DEBUG")] ⟨0, 0, 0⟩ = .ok routing := ⟨_, rfl⟩
  refine ⟨routing, configured, ?_⟩
  rw [convertRouted_eq_error_iff _ Logging.Routing.sparesProvider_fresh configured]
  exact .detail (by decide +kernel) (.length rfl rfl rfl rfl signed .nan)

end SignedLink.Provider
