import GridBeans.Proofs.Consistency
import GridBeans.Proofs.Generation.StoreEffects

/-!
# Expansion of event groups

A cluster names groups of events. All names are looked up before anything is written, so a name that
no group has leaves nothing behind; one group is referred to, and several are replaced by what is in
them. The groups that cannot be found are those that the rules for a cluster report.
-/
namespace GridBeans.Generation

open GridBeans.Markup GridBeans.Config GridBeans.Catalogue

/-! ## Names -/

/-- The groups of the catalogue have different names, so a name stands for one group at most. -/
theorem eventGroups_distinct : (eventGroups.map EventGroup.name).Nodup := by decide

/-- The events of the group with a name. -/
def membersOf (name : String) : List String :=
  (eventsOf? name).getD []

theorem membersOf_name {g : EventGroup} (known : g ∈ eventGroups) :
    membersOf g.name = g.events := by
  rcases eventsOf?_cases g.name with ⟨found, inside, same, events⟩ | ⟨unknown, -⟩
  · rw [membersOf, events, List.inj_on_of_nodup_map eventGroups_distinct inside known same]
    rfl
  · exact absurd (List.mem_map_of_mem known) unknown

/-- Names are those of groups of the catalogue, or start with such names up to one that is not. -/
theorem names_cases (names : List String) :
    (∃ groups : List EventGroup, (∀ g ∈ groups, g ∈ eventGroups) ∧
        names = groups.map EventGroup.name ∧ names.mapM groupNamed = .ok groups) ∨
      ∃ (groups : List EventGroup) (name : String) (rest : List String),
        (∀ g ∈ groups, g ∈ eventGroups) ∧ ¬ IsGroup name ∧
        names = groups.map EventGroup.name ++ name :: rest ∧
        names.mapM groupNamed = .error (.unknownEventGroup name) := by
  -- The names of the groups found so far go ahead of those that the rest is made of.
  induction names with
  | nil => exact .inl ⟨[], List.forall_mem_nil _, rfl, rfl⟩
  | cons name rest ih =>
    rw [List.mapM_cons, groupNamed]
    rcases eventsOf?_cases name with ⟨g, known, rfl, events⟩ | ⟨unknown, none⟩
    · rw [events]
      rcases ih with ⟨groups, inside, rfl, found⟩ |
        ⟨groups, other, behind, inside, unknown, rfl, failed⟩
      · rw [found]
        exact .inl ⟨g :: groups, List.forall_mem_cons.mpr ⟨known, inside⟩, rfl, rfl⟩
      · rw [failed]
        exact .inr ⟨g :: groups, other, behind, List.forall_mem_cons.mpr ⟨known, inside⟩, unknown,
          rfl, rfl⟩
    · rw [none]
      exact .inr ⟨[], name, rest, List.forall_mem_nil _, unknown, rfl, rfl⟩

/-! ## Ways to end -/

/-- The desk once the property of the event types is written on its sheet. A blank line is requested
behind it. -/
def Desk.withEvents (desk : Desk) (inside : List Line) : Desk :=
  let lines := propertyAround "includeEventTypes" inside
  ⟨⟨desk.sheet.lines ++ (desk.sheet.cursor.ahead lines ++ deeper desk.sheet.cursor.depth lines),
    ⟨desk.sheet.cursor.depth, true, false⟩⟩, desk.registry⟩

/-- What comes of the names of event groups on a desk: a result, and the desk that they leave. -/
inductive EventEnding (desk : Desk) : List String → Except Failure Unit → Desk → Prop
  | nothing : EventEnding desk [] (.ok ()) desk
  | reference {g : EventGroup} : g ∈ eventGroups →
      EventEnding desk [g.name] (.ok ()) (desk.withEvents (pieceLines [eventConstant g.name]))
  | expansion {groups : List EventGroup} : 2 ≤ groups.length → (∀ g ∈ groups, g ∈ eventGroups) →
      EventEnding desk (groups.map EventGroup.name) (.ok ())
        (desk.withEvents (elementLines "array" []
          ([Line.blank].intercalate (groups.map groupEventLines))))
  | unknown {groups : List EventGroup} {name : String} {rest : List String} :
      (∀ g ∈ groups, g ∈ eventGroups) → ¬ IsGroup name →
      EventEnding desk (groups.map EventGroup.name ++ name :: rest)
        (.error (.unknownEventGroup name)) desk

/-- Behind the lookup of names, the property is written around the groups and a blank line is
requested. -/
theorem eventTypes_found {names : List String} {groups : List EventGroup} (given : names ≠ [])
    (found : names.mapM groupNamed = .ok groups) :
    ∃ body : Script Unit, body.Fills (eventGroupLines groups) ∧ body.failure? = none ∧
      eventTypes names = ((Script.sectionStart >>= fun _ => propertyBlock "includeEventTypes" body)
        >>= fun _ => Script.requestBlank) := by
  refine ⟨_, eventGroups_fill groups, ?_, ?_⟩
  · split
    · rfl
    · simp
  · rw [eventTypes, if_neg (by simpa using given), found, Script.next_assoc]
    rfl

/-- Names that are all found are written as one section around their groups, on any desk. -/
theorem run_eventTypes (desk : Desk) {names : List String} {groups : List EventGroup}
    (given : names ≠ []) (found : names.mapM groupNamed = .ok groups) :
    (eventTypes names).outcome = .ok () ∧
      desk.run (eventTypes names) = desk.withEvents (eventGroupLines groups) := by
  obtain ⟨body, fills, succeeds, parts⟩ := eventTypes_found given found
  have opens := sectionBlock_opens "includeEventTypes" fills
  have opened : (Script.sectionStart >>= fun _ =>
      propertyBlock "includeEventTypes" body).failure? = none := by
    simp [succeeds]
  obtain ⟨u, result⟩ := (Script.exists_outcome_ok_iff _).mpr opened
  have sheet : (eventTypes names).runOn desk.sheet =
      (desk.withEvents (eventGroupLines groups)).sheet := by
    have filled : propertyAround "includeEventTypes" (eventGroupLines groups) ≠ [] :=
      elementLines_ne_nil _ _ _
    rw [parts, Script.runOn_bind result, opens.runOn_eq opened, Cursor.behind_of_ne_nil _ filled]
    show Sheet.mk (_ ++ []) _ = _
    rw [List.append_nil]
    rfl
  refine ⟨?_, ?_⟩
  · rw [parts, Script.outcome_bind, result]
    rfl
  · rw [Desk.run, sheet, Script.registerIn, sources_eventTypes]
    rfl

/-- Every group has a line at least, so there is a blank line between any two. -/
theorem spaced_groupEventLines (groups : List EventGroup) :
    spaced (groups.map groupEventLines) =
      [Line.blank].intercalate (groups.map groupEventLines) := by
  refine spaced_of_filled fun lines mem => ?_
  obtain ⟨g, -, rfl⟩ := List.mem_map.mp mem
  exact List.cons_ne_nil _ _

/-- Every run of the events ends in one of the listed ways, for any names and on any desk. -/
theorem eventTypes_ends (names : List String) (desk : Desk) :
    EventEnding desk names (eventTypes names).outcome (desk.run (eventTypes names)) := by
  rcases names_cases names with ⟨groups, known, rfl, found⟩ |
    ⟨groups, name, rest, known, unknown, rfl, failed⟩
  · by_cases none : groups = []
    · subst none
      show EventEnding desk [] _ (desk.run (Script.ofExcept (.ok ())))
      rw [Desk.run_ofExcept]
      exact .nothing
    · have given : groups.map EventGroup.name ≠ [] := by simpa using none
      obtain ⟨result, left⟩ := run_eventTypes desk given found
      rw [result, left]
      match groups with
      | [g] => exact .reference (known g List.mem_cons_self)
      | g :: other :: rest =>
        have several : 2 ≤ (g :: other :: rest).length := Nat.le_add_left 2 rest.length
        rw [eventGroupLines, spaced_groupEventLines]
        · exact .expansion several known
        · nofun
  · have failing : eventTypes (groups.map EventGroup.name ++ name :: rest) =
        Script.ofExcept (.error (.unknownEventGroup name)) := by
      rw [eventTypes, if_neg (by simp), failed]
      rfl
    rw [failing, Desk.run_ofExcept]
    exact .unknown known unknown

/-! ## Reports -/

/-- The name that a violation reports as no group. -/
def reportedGroup? : Violation → Option String
  | .unknownEventGroup name => some name
  | _ => none

/-- Names that a cluster is reported to have no groups for, in the order of the report. -/
def reportedGroups (c : ClusterConfig) : List String :=
  (violations c).filterMap reportedGroup?

theorem filterMap_violationIf (broken : Bool) (v : Violation) :
    (violationIf broken v).filterMap reportedGroup? =
      if broken then (reportedGroup? v).toList else [] := by
  cases broken with
  | false => rfl
  | true => cases v <;> rfl

theorem discovery_reports_none (d : DiscoveryConfig) :
    (discoveryViolations d).filterMap reportedGroup? = [] := by
  refine List.filterMap_eq_nil_iff.mpr fun v mem => ?_
  rcases mem_discoveryViolations mem with ⟨e, rfl⟩ | rfl | ⟨kind, field, rfl⟩ <;> rfl

theorem caches_report_none (swapSpace : Bool) (index : Nat) (caches : List CacheConfig) :
    (cachesViolations swapSpace index caches).filterMap reportedGroup? = [] := by
  induction caches generalizing index with
  | nil => rfl
  | cons c rest ih =>
    simp [cachesViolations, cacheViolations, ih, filterMap_violationIf, reportedGroup?]

/-- Every name that no group has is reported, in order and with repetitions. -/
theorem reportedGroups_eq (c : ClusterConfig) :
    reportedGroups c = c.includeEventTypes.filter fun name => ¬ IsGroup name := by
  have events : ∀ names : List String, (eventGroupViolations names).filterMap reportedGroup? =
      names.filter fun name => ¬ IsGroup name := by
    intro names
    induction names with
    | nil => rfl
    | cons name rest ih =>
      rw [eventGroupViolations] at ih ⊢
      rw [List.flatMap_cons, List.filterMap_append, ih, filterMap_violationIf]
      rcases eventsOf?_cases name with ⟨g, known, rfl, events⟩ | ⟨unknown, none⟩
      · have isGroup : IsGroup g.name := List.mem_map_of_mem known
        simp [events, isGroup]
      · simp [none, unknown, reportedGroup?]
  rw [reportedGroups, violations, List.filterMap_append, List.filterMap_append,
    List.filterMap_append, filterMap_violationIf, events, caches_report_none]
  cases c.discovery with
  | none => simp [reportedGroup?]
  | some d => simp [discovery_reports_none, reportedGroup?]

/-! ## Constants -/

/-- The constant of an event or of a group, with its class. -/
def constantName (name : String) : String :=
  eventTypeClass ++ "." ++ name

def constantOf? : Piece → Option String
  | .emptyTag "util:constant" [⟨"static-field", value⟩] => some value.text
  | _ => none

def constantsOn (lines : List Line) : List String :=
  (lines.filterMap Line.piece?).filterMap constantOf?

/-- The constants on the lines that are new on a desk. -/
def Desk.newConstants (before after : Desk) : List String :=
  constantsOn (after.sheet.lines.drop before.sheet.lines.length)

theorem constantsOn_append (front back : List Line) :
    constantsOn (front ++ back) = constantsOn front ++ constantsOn back := by
  rw [constantsOn, List.filterMap_append, List.filterMap_append]
  rfl

/-- The tags around lines refer to no constant. -/
theorem constantsOn_elementLines (element : String) (attributes : List Attribute)
    (inside : List Line) :
    constantsOn (elementLines element attributes inside) = constantsOn inside := by
  rw [constantsOn, filterMap_piece?_elementLines, List.filterMap_cons_none rfl,
    List.filterMap_append]
  exact List.append_nil _

theorem constantsOn_pieceLines (names : List String) :
    constantsOn (pieceLines (names.map eventConstant)) = names.map constantName := by
  induction names with
  | nil => rfl
  | cons name rest ih => exact congrArg (constantName name :: ·) ih

/-- Groups that are written out give the constants of their events, group by group. -/
theorem constantsOn_groups (groups : List EventGroup) :
    constantsOn (spaced (groups.map groupEventLines)) =
      (groups.flatMap EventGroup.events).map constantName := by
  rw [constantsOn, filterMap_piece?_spaced, ← constantsOn]
  induction groups with
  | nil => rfl
  | cons g rest ih =>
    have events : constantsOn (groupEventLines g) = g.events.map constantName :=
      constantsOn_pieceLines g.events
    rw [List.map_cons, List.flatten_cons, constantsOn_append, events, ih, List.flatMap_cons,
      List.map_append]

theorem newConstants_withEvents (desk : Desk) (inside : List Line) :
    desk.newConstants (desk.withEvents inside) = constantsOn inside := by
  have added : desk.newConstants (desk.withEvents inside) =
      constantsOn (propertyAround "includeEventTypes" inside) := by
    rw [Desk.newConstants, Desk.withEvents, List.drop_left, constantsOn, filterMap_piece?_added]
    rfl
  rw [added]
  exact constantsOn_elementLines _ _ _

/-- Of a group alone its own constant is written, of several groups those of their events. -/
theorem EventEnding.constants {desk after : Desk} {names : List String}
    {result : Except Failure Unit} (ending : EventEnding desk names result after)
    (known : ∀ name ∈ names, IsGroup name) :
    desk.newConstants after =
      (if names.length = 1 then names else names.flatMap membersOf).map constantName := by
  cases ending with
  | nothing =>
    rw [Desk.newConstants, List.drop_length]
    rfl
  | @reference g _ =>
    rw [newConstants_withEvents]
    exact constantsOn_pieceLines [g.name]
  | @expansion groups several inside =>
    have members : (groups.map EventGroup.name).flatMap membersOf =
        groups.flatMap EventGroup.events := by
      rw [List.flatMap_map]
      exact List.flatMap_congr fun g mem => membersOf_name (inside g mem)
    have notOne : (groups.map EventGroup.name).length ≠ 1 := by
      rw [List.length_map]
      omega
    rw [newConstants_withEvents, constantsOn_elementLines, ← spaced_groupEventLines,
      constantsOn_groups, if_neg notOne, members]
  | unknown _ unknown => exact absurd (known _ (by simp)) unknown

/-- What the names without a group make of a part: the first of them is its failure. -/
def resultOf : List String → Except Failure Unit
  | [] => .ok ()
  | name :: _ => .error (.unknownEventGroup name)

/-- The first name without a group is the failure; where every name has one there is none. -/
theorem EventEnding.result_eq {desk after : Desk} {names : List String}
    {result : Except Failure Unit} (ending : EventEnding desk names result after) :
    result = resultOf (names.filter fun name => ¬ IsGroup name) := by
  have found : ∀ groups : List EventGroup, (∀ g ∈ groups, g ∈ eventGroups) →
      (groups.map EventGroup.name).filter (fun name => ¬ IsGroup name) = [] := by
    intro groups known
    rw [List.filter_eq_nil_iff]
    intro name mem
    obtain ⟨g, inside, rfl⟩ := List.mem_map.mp mem
    have isGroup : IsGroup g.name := List.mem_map_of_mem (known g inside)
    simpa using isGroup
  cases ending with
  | nothing => rfl
  | @reference g known =>
    rw [← List.map_singleton, found [g] (List.forall_mem_singleton.mpr known), resultOf]
  | @expansion groups _ known => rw [found groups known, resultOf]
  | @unknown groups name rest known unknown =>
    rw [List.filter_append, found groups known, List.nil_append,
      List.filter_cons_of_pos (by simpa using unknown), resultOf]

/-- The names of event groups end on any desk as one of the rules says. They fail exactly if a name
has no group, with the first such name, which is also the first that is reported for any cluster
with these names; and if all have a group, then the new constants are that of the only group, or
those of the events of all groups in order. -/
theorem eventTypes_expand (names : List String) (desk : Desk) :
    let result := (eventTypes names).outcome
    let after := desk.run (eventTypes names)
    EventEnding desk names result after ∧
      (∀ c : ClusterConfig,
        let reported := reportedGroups { c with includeEventTypes := names }
        reported = names.filter (fun name => ¬ IsGroup name) ∧ result = resultOf reported) ∧
      ((∀ name ∈ names, IsGroup name) → desk.newConstants after =
        (if names.length = 1 then names else names.flatMap membersOf).map constantName) := by
  have ending := eventTypes_ends names desk
  refine ⟨ending, fun c => ?_, ending.constants⟩
  have reported := reportedGroups_eq { c with includeEventTypes := names }
  refine ⟨reported, ?_⟩
  rw [reported]
  exact ending.result_eq

/-- Groups with events in common are written out with these events both times. -/
theorem overlapping_groups_expand :
    (∀ name ∈ ["EVTS_ERROR", "EVTS_DEPLOYMENT"], IsGroup name) ∧
      (Desk.empty 2).newConstants
          ((Desk.empty 2).run (eventTypes ["EVTS_ERROR", "EVTS_DEPLOYMENT"])) =
        (membersOf "EVTS_ERROR" ++ membersOf "EVTS_DEPLOYMENT").map constantName := by
  have known : ∀ name ∈ ["EVTS_ERROR", "EVTS_DEPLOYMENT"], IsGroup name := by decide
  obtain ⟨-, -, constants⟩ := eventTypes_expand ["EVTS_ERROR", "EVTS_DEPLOYMENT"] (Desk.empty 2)
  exact ⟨known, constants known⟩

end GridBeans.Generation
