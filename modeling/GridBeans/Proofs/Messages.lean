import GridBeans.Proofs.Violations
import GridBeans.Proofs.Xml.Scanner

/-!
# Messages

What a check says of a cluster, in words. Every broken rule has one message, and its words are
stated here for each rule, without the check that finds it broken. A message about a cache begins
with the position of the cache. The position can be read back, so the messages alone tell what is
said of which cache, and moving caches behind others changes nothing in them but that number.
-/
namespace GridBeans

open GridBeans.Config GridBeans.Generation GridBeans.Text

/-- What is said of a cluster; nothing if it keeps all rules. -/
def messages (c : ClusterConfig) : List String :=
  (violations c).map Violation.message

/-! ## Words -/

/-- The name of a cache as it stands in a message: nothing if it is absent or empty. -/
def nameNote (name : Option String) : String :=
  if name.getD "" = "" then "" else " (" ++ name.getD "" ++ ")"

/-- How a message names a cache: by its position, and by its name if it has one. -/
def cacheTitle (index : Nat) (name : Option String) : String :=
  "caches[" ++ toString index ++ "]" ++ nameNote name

/-- The words for a rule that is broken. Where the rule is about a cache, they begin with its title.
-/
def Rule.text : Rule → String
  | named => "name is required"
  | finderKnown d => "discovery: unknown discovery kind: " ++ d.kind
  | addressed _ => "discovery.Vm.addresses must contain at least one address"
  | fieldFilled kind field _ => "discovery." ++ kind.name ++ "." ++ field ++ " is required"
  | groupKnown name => "includeEventTypes: unknown event group " ++ name
  | swapBacked index cache =>
    cacheTitle index cache.name ++ ": swapEnabled requires swapSpaceSpi on the cluster"
  | storeUsed index cache =>
    cacheTitle index cache.name ++ ": cacheStoreFactory requires readThrough or writeThrough"
  | storeGiven index cache =>
    cacheTitle index cache.name ++ ": readThrough and writeThrough require cacheStoreFactory"
  | writeBehindStored index cache =>
    cacheTitle index cache.name ++ ": writeBehindEnabled requires cacheStoreFactory"

/-- A cache is named in messages by its title, in which an empty name counts as none. -/
theorem CacheLabel.text_eq (l : CacheLabel) : l.text = cacheTitle l.index l.name := by
  rw [CacheLabel.text, cacheTitle, nameNote]
  cases l.name with
  | none => rfl
  | some name =>
    rw [nonEmpty?_some]
    by_cases empty : name = "" <;> simp [empty]

/-- The message about a broken rule says what the rule asks for. -/
theorem Rule.message_report (r : Rule) : r.report.message = r.text := by
  cases r with
  | named | addressed | fieldFilled | groupKnown => rfl
  | finderKnown d =>
    -- The message is put together in two steps, and stated in one piece.
    have words : "discovery: " ++ ("unknown " ++ Slot.discovery.label ++ " kind: ") =
        "discovery: unknown discovery kind: " := by decide
    show "discovery: " ++ ("unknown " ++ Slot.discovery.label ++ " kind: " ++ d.kind) =
      "discovery: unknown discovery kind: " ++ d.kind
    rw [← String.append_assoc, words]
  | swapBacked index cache | storeUsed index cache | storeGiven index cache
  | writeBehindStored index cache =>
    exact congrArg (· ++ _) (CacheLabel.text_eq ⟨index, cache.name⟩)

/-! ## Positions -/

/-- The position of the cache that a message is about, and the text behind it. Other messages do
not begin like those about caches. -/
def cutPosition? (m : List Char) : Option (Nat × List Char) :=
  if "caches[".toList <+: m then
    let behind := m.drop "caches[".length
    some (Nat.ofDigitChars 10 (behind.takeWhile Char.isDigit) 0, behind.dropWhile Char.isDigit)
  else none

/-- The position of the cache that a message is about. -/
def position? (m : String) : Option Nat :=
  (cutPosition? m.toList).map Prod.fst

/-- The message once there are more caches ahead of the one that it is about. -/
def shiftMessage (count : Nat) (m : String) : String :=
  match cutPosition? m.toList with
  | some (index, behind) => "caches[" ++ toString (index + count) ++ String.ofList behind
  | none => m

/-- The digits of a position end at the bracket behind them, so they are read as the number that
was written. -/
theorem cutPosition?_title (index : Nat) (behind : String) :
    cutPosition? ("caches[" ++ toString index ++ "]" ++ behind).toList =
      some (index, "]".toList ++ behind.toList) := by
  have digits : ∀ d ∈ Nat.toDigits 10 index, Char.isDigit d = true := fun d mem =>
    Nat.isDigit_of_mem_toDigits (by decide) (by decide) mem
  have ends : Xml.StopsAt Char.isDigit (']' :: behind.toList) := by simp
  have split : ("caches[" ++ toString index ++ "]" ++ behind).toList =
      "caches[".toList ++ (Nat.toDigits 10 index ++ ']' :: behind.toList) := by
    simp [Nat.toString_eq_repr]
  have starts := List.prefix_append "caches[".toList (Nat.toDigits 10 index ++ ']' :: behind.toList)
  rw [split, cutPosition?, if_pos starts, ← String.length_toList, List.drop_left]
  simp only [Xml.takeWhile_run digits ends, Xml.dropWhile_run digits ends,
    Nat.ofDigitChars_toDigits (by decide : 1 < 10) (by decide)]
  rfl

theorem cutPosition?_of_not_prefix {m : List Char} (other : ¬ "caches[".toList <+: m) :
    cutPosition? m = none := if_neg other

/-- A message about a cache is the title of the cache and words that do not depend on it. -/
theorem Violation.message_of_cache {v : Violation} {label : CacheLabel}
    (about : v.cache? = some label) :
    ∃ words, v.message = label.text ++ words ∧
      ∀ count, (v.shift count).message = (label.shift count).text ++ words := by
  cases v with
  | nameMissing | discoveryFailure | addressesMissing | discoveryFieldMissing
  | unknownEventGroup => cases about
  | swapSpaceMissing cache | storeUnused cache | throughWithoutStore cache
  | writeBehindWithoutStore cache =>
    cases about
    -- The words behind the label are the same on both sides, so they need not be written out.
    exact ⟨_, rfl, fun _ => rfl⟩

/-- The position in the title of a cache is found there, and moving the cache changes nothing
else. -/
theorem CacheLabel.cutPosition?_text (l : CacheLabel) (words : String) :
    ∃ behind, cutPosition? (l.text ++ words).toList = some (l.index, behind) ∧
      ∀ count, (l.shift count).text ++ words =
        "caches[" ++ toString (l.index + count) ++ String.ofList behind := by
  have title : ∀ index, cacheTitle index l.name ++ words =
      "caches[" ++ toString index ++ "]" ++ (nameNote l.name ++ words) :=
    fun index => String.append_assoc
  refine ⟨"]".toList ++ (nameNote l.name ++ words).toList, ?_, fun count => ?_⟩
  · rw [CacheLabel.text_eq, title, cutPosition?_title]
  · rw [CacheLabel.text_eq, CacheLabel.shift, title, String.ofList_append, String.ofList_toList,
      String.ofList_toList]
    exact String.append_assoc

/-- A message about anything else does not begin like one about a cache. -/
theorem Violation.cutPosition?_message {v : Violation} (elsewhere : v.cache? = none) :
    cutPosition? v.message.toList = none := by
  apply cutPosition?_of_not_prefix
  cases v with
  | swapSpaceMissing | storeUnused | throughWithoutStore | writeBehindWithoutStore =>
    cases elsewhere
  | nameMissing | addressesMissing => decide
  | discoveryFailure failure =>
    show ¬ "caches[".toList <+: ("discovery: " ++ failure.message).toList
    simp
  | discoveryFieldMissing kind field =>
    show ¬ "caches[".toList <+:
      ("discovery." ++ kind.name ++ "." ++ field ++ " is required").toList
    simp
  | unknownEventGroup name =>
    show ¬ "caches[".toList <+: ("includeEventTypes: unknown event group " ++ name).toList
    simp

/-- A position can be read from a message exactly if the violation is about a cache, and it is that
of the cache. -/
theorem position?_message (v : Violation) :
    position? v.message = v.cache?.map CacheLabel.index := by
  rw [position?]
  cases about : v.cache? with
  | none =>
    rw [v.cutPosition?_message about]
    rfl
  | some label =>
    obtain ⟨words, written, -⟩ := Violation.message_of_cache about
    obtain ⟨behind, cut, -⟩ := label.cutPosition?_text words
    rw [written, cut]
    rfl

/-- A violation that is about no cache stays the same when caches are put in front. -/
theorem Violation.shift_of_none {v : Violation} (elsewhere : v.cache? = none) (count : Nat) :
    v.shift count = v := by
  cases v with
  | swapSpaceMissing | storeUnused | throughWithoutStore | writeBehindWithoutStore =>
    cases elsewhere
  | nameMissing | discoveryFailure | addressesMissing | discoveryFieldMissing
  | unknownEventGroup => rfl

/-- Moving the cache that a violation is about changes the position in its message. -/
theorem message_shift (count : Nat) (v : Violation) :
    (v.shift count).message = shiftMessage count v.message := by
  rw [shiftMessage]
  cases about : v.cache? with
  | none => rw [v.cutPosition?_message about, v.shift_of_none about]
  | some label =>
    obtain ⟨words, written, shifted⟩ := Violation.message_of_cache about
    obtain ⟨behind, cut, moved⟩ := label.cutPosition?_text words
    rw [shifted, moved, written, cut]

/-! ## All that is said -/

/-- What is said of caches. -/
def cacheMessages (c : ClusterConfig) : List String :=
  (messages c).filter fun m => (position? m).isSome

/-- What is said of the cache at a position. -/
def messagesOn (c : ClusterConfig) (index : Nat) : List String :=
  (messages c).filter fun m => position? m = some index

/-- The messages from which a position can be read are those of the violations about caches, in the
same order. -/
theorem cacheMessages_eq (c : ClusterConfig) :
    cacheMessages c = (cacheReports c).map Violation.message := by
  simp only [cacheMessages, messages, cacheReports, List.filter_map, Function.comp_def,
    position?_message, Option.isSome_map]

/-- The messages with one position are those of the violations about the cache there. -/
theorem messagesOn_eq (c : ClusterConfig) (index : Nat) :
    messagesOn c index = (reportsOn c index).map Violation.message := by
  simp only [messagesOn, messages, reportsOn, List.filter_map, Function.comp_def,
    position?_message]

/-- Nothing is said of exactly the clusters that keep all rules. Of the others, each broken rule is
said once, in its own words and in the order of the rules. What is said of a cache depends on its
position, the cache and whether there is a swap space; so behind other caches it is the same, but
for the position. -/
theorem messages_exact (c : ClusterConfig) :
    (messages c = [] ↔ Consistent c) ∧
      messages c = ((rules c).filter fun r => ¬ r.Holds c).map Rule.text ∧
      (∀ index, messagesOn c index = c.caches[index]?.toList.flatMap fun cache =>
        (cacheViolations (hasSwapSpace c) index cache).map Violation.message) ∧
      ∀ front back : List CacheConfig,
        cacheMessages { c with caches := front ++ back } =
          cacheMessages { c with caches := front } ++
            (cacheMessages { c with caches := back }).map (shiftMessage front.length) := by
  refine ⟨?_, ?_, fun index => ?_, fun front back => ?_⟩
  · rw [messages, List.map_eq_nil_iff, violations_eq_nil_iff]
  · rw [messages, violations_eq, reports, List.map_map]
    exact List.map_congr_left fun r _ => r.message_report
  · rw [messagesOn_eq, reportsOn_eq, List.map_flatMap]
  · simp only [cacheMessages_eq, cacheReports_append, List.map_append, List.map_map]
    congr 1
    exact List.map_congr_left fun v _ => message_shift front.length v

-- A finder that is not known hides neither the rule ahead of it nor the one behind it.
example : messages { ClusterConfig.unset with
    discovery := some { DiscoveryConfig.unset with kind := "Zookeeper" }
    includeEventTypes := ["EVTS_NONE"] } =
      ["name is required", "discovery: unknown discovery kind: Zookeeper",
        "includeEventTypes: unknown event group EVTS_NONE"] := by decide

end GridBeans
