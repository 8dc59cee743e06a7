import GridBeans.Consistency
import GridBeans.Proofs.Config.Unset
import GridBeans.Proofs.Generation.Faults

/-!
# Consistency and generation

What a description that keeps all rules can still not be generated for. The rules cover unknown
finders, the sections of three finders and the names of event groups; the other faults are left to
generation.
-/
namespace GridBeans

open GridBeans.Config GridBeans.Catalogue GridBeans.Generation GridBeans.Text

/-! ## Faults that no rule covers -/

/-- The finders whose section no rule calls for. -/
def uncheckedDiscoveryFaults : Option DiscoveryConfig → List Failure
  | none => []
  | some d =>
    if d.kind = "Multicast" then sectionFaults .discovery d.kind d.multicast
    else if d.kind = "Jdbc" then sectionFaults .discovery d.kind d.jdbc
    else if d.kind = "SharedFs" then sectionFaults .discovery d.kind d.sharedFs
    else []

def uncheckedFaults (c : ClusterConfig) : List Failure :=
  uncheckedDiscoveryFaults c.discovery ++ marshallerFaults c.marshaller ++
    swapSpaceFaults c.swapSpaceSpi ++ c.caches.flatMap cacheFaults

/-! ## Faults that rules cover -/

theorem violationIf_eq_nil (broken : Bool) (v : Violation) :
    violationIf broken v = [] ↔ broken = false := by
  cases broken <;> simp [violationIf]

theorem eq_of_mem_violationIf {broken : Bool} {v w : Violation} (mem : v ∈ violationIf broken w) :
    v = w := by
  cases broken with
  | false => cases mem
  | true => exact List.mem_singleton.mp mem

/-- What can be reported of a discovery section: an unknown finder, missing addresses, or a missing
field of the finder. -/
theorem mem_discoveryViolations {d : DiscoveryConfig} {v : Violation}
    (reported : v ∈ discoveryViolations d) :
    (∃ e, v = .discoveryFailure e) ∨ v = .addressesMissing ∨
      ∃ kind field, v = .discoveryFieldMissing kind field := by
  rw [discoveryViolations] at reported
  split at reported
  · exact .inl ⟨_, List.mem_singleton.mp reported⟩
  · exact .inr (.inl (eq_of_mem_violationIf reported))
  · exact .inr (.inr ⟨_, _, eq_of_mem_violationIf reported⟩)
  · rcases List.mem_append.mp reported with here | here
    · exact .inr (.inr ⟨_, _, eq_of_mem_violationIf here⟩)
    · exact .inr (.inr ⟨_, _, eq_of_mem_violationIf here⟩)
  · simp only [List.mem_append] at reported
    rcases reported with ((here | here) | here) | here <;>
      exact .inr (.inr ⟨_, _, eq_of_mem_violationIf here⟩)
  · cases reported
  · cases reported
  · cases reported

/-- A field that may not be blank is in a section that is given. -/
theorem isSome_of_requiredText {α : Type} {kind : FinderKind} {field : String} {given : Option α}
    {get : α → Option String} (kept : requiredText kind field (given.bind get) = []) :
    given.isSome = true := by
  rw [requiredText, violationIf_eq_nil] at kept
  cases given with
  | none => cases kept
  | some a => rfl

theorem sectionFaults_of_isSome {α : Type} {slot : Slot} {kind : String} {given : Option α}
    (isGiven : given.isSome = true) : sectionFaults slot kind given = [] :=
  if_pos isGiven

/-- Where the rules for discovery are kept, only finders whose section no rule looks at can have a
fault. -/
theorem discoveryFaults_of_kept {d : DiscoveryConfig} (kept : discoveryViolations d = []) :
    discoveryFaults (some d) = uncheckedDiscoveryFaults (some d) := by
  have names : FinderKind.all.map FinderKind.name = finderKinds := rfl
  rw [discoveryViolations, FinderKind.ofName] at kept
  rcases find_cases names .discovery d.kind with ⟨k, hit, named, fine⟩ | ⟨missing, -⟩
  · rw [hit] at kept
    rw [discoveryFaults, fine, List.nil_append, uncheckedDiscoveryFaults, ← named]
    cases k with
    | vm =>
      have given : d.vm.isSome = true := by
        simp only [violationIf_eq_nil] at kept
        cases vm : d.vm with
        | none =>
          rw [vm] at kept
          cases kept
        | some settings => rfl
      simp [FinderKind.name, sectionFaults_of_isSome given]
    | cloud =>
      have given := isSome_of_requiredText (List.append_eq_nil_iff.mp kept).1
      simp [FinderKind.name, sectionFaults_of_isSome given]
    | googleStorage =>
      simp only [List.append_eq_nil_iff] at kept
      have given := isSome_of_requiredText kept.1.1.1
      simp [FinderKind.name, sectionFaults_of_isSome given]
    | multicast | s3 | jdbc | sharedFs => simp [FinderKind.name]
  · rw [missing] at kept
    cases kept

/-- Where the checker knows every group name, generation finds no unknown group either. -/
theorem eventFaults_of_kept {names : List String} (kept : eventGroupViolations names = []) :
    eventFaults names = [] := by
  simp only [eventGroupViolations, List.flatMap_eq_nil_iff, violationIf_eq_nil] at kept
  simp only [eventFaults, List.flatMap_eq_nil_iff]
  intro name mem
  rcases eventsOf?_cases name with ⟨g, inside, rfl, -⟩ | ⟨-, none⟩
  · exact if_pos (List.mem_map_of_mem inside)
  · have found := kept name mem
    rw [none] at found
    cases found

/-- The faults of a cluster that keeps all rules are those that no rule covers. -/
theorem faults_of_kept {c : ClusterConfig} (kept : violations c = []) :
    faults c none = uncheckedFaults c := by
  simp only [violations, List.append_eq_nil_iff] at kept
  obtain ⟨⟨⟨-, discoveryKept⟩, eventsKept⟩, -⟩ := kept
  have discovery : discoveryFaults c.discovery = uncheckedDiscoveryFaults c.discovery := by
    cases given : c.discovery with
    | none => rfl
    | some d =>
      rw [given] at discoveryKept
      exact discoveryFaults_of_kept discoveryKept
  rw [faults, uncheckedFaults, discovery, eventFaults_of_kept eventsKept]
  simp [nearFaults]

/-! ## What keeping the rules is worth -/

/-- A cluster that keeps all rules has its document and its properties generated exactly if it has
none of the faults that no rule covers, and otherwise both report the first of these. -/
theorem kept_generates_iff (c : ClusterConfig) (options : DocumentOptions)
    (kept : violations c = []) :
    ((∃ text, clusterDocument c none options = .ok text) ↔ uncheckedFaults c = []) ∧
      ((∃ text, secretProperties c = .ok text) ↔ uncheckedFaults c = []) ∧
      (∀ e, clusterDocument c none options = .error e ↔ (uncheckedFaults c).head? = some e) ∧
      ∀ e, secretProperties c = .error e ↔ (uncheckedFaults c).head? = some e := by
  rw [← faults_of_kept kept]
  exact ⟨clusterDocument_ok_iff c none options, secretProperties_ok_iff c,
    clusterDocument_error_iff c none options, secretProperties_error_iff c⟩

/-- A named cluster whose nodes find each other under one address. -/
def addressedCluster : ClusterConfig :=
  { ClusterConfig.unset with
    name := some "grid"
    discovery := some { DiscoveryConfig.unset with kind := "Vm", vm := some ⟨["10.0.0.1"]⟩ } }

/-- A cluster with one address keeps all rules, and its document and its template are both
generated. -/
theorem addressedCluster_generates :
    violations addressedCluster = [] ∧
      (∃ text, clusterDocument addressedCluster none .default = .ok text) ∧
        ∃ text, secretProperties addressedCluster = .ok text := by
  have kept : violations addressedCluster = [] := by decide
  have none_left : uncheckedFaults addressedCluster = [] := by decide
  obtain ⟨document, properties, -⟩ := kept_generates_iff addressedCluster .default kept
  exact ⟨kept, document.mpr none_left, properties.mpr none_left⟩

/-- A named cluster with a marshaller of an unknown kind, for which there is no rule. -/
def unknownMarshallerCluster : ClusterConfig :=
  { ClusterConfig.unset with
    name := some "g"
    marshaller := some ⟨some "X", none, none⟩ }

/-- Keeping all rules is not enough for generation: no rule looks at the kind of the marshaller. -/
theorem kept_not_enough :
    ¬ ∀ c : ClusterConfig, violations c = [] → ∀ options : DocumentOptions,
      (∃ text, clusterDocument c none options = .ok text) ∧
        ∃ text, secretProperties c = .ok text := by
  intro always
  have kept : violations unknownMarshallerCluster = [] := by decide
  have generated := (always unknownMarshallerCluster kept .default).2
  rw [secretProperties_ok_iff] at generated
  have fault : faults unknownMarshallerCluster none = [.unknownKind .marshaller "X"] := by decide
  rw [fault] at generated
  cases generated

end GridBeans
