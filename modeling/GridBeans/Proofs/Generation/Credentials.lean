import GridBeans.Proofs.Generation.Template
import GridBeans.Proofs.Properties.Keys
import Mathlib.Data.Finset.Max

/-!
# Credentials in the properties file

What a reader of properties finds in the template. If the bean ids of all data sources are plain
keys, it finds the credentials of each of them, without values, and nothing else. The template has
bean ids as they are, so an id with a separator, a blank, a line end, a backslash or a mark at its
start is read as another key: of such ids, the longest one has a key that comes of no line.
-/
namespace GridBeans.Generation

open GridBeans.Xml GridBeans.Config GridBeans.Catalogue GridBeans.Properties

/-! ## Lines of the template -/

/-- What the keys of every data source end with, behind a full stop. -/
def credentialEnds : List (List Char) :=
  ["jdbc.url".toList, "jdbc.username".toList, "jdbc.password".toList]

def credentialKey (s : DataSource) (keyEnd : List Char) : String :=
  String.ofList (s.beanId.toList ++ '.' :: keyEnd)

def commentLine (s : DataSource) : List Char :=
  ("# " ++ s.beanId ++ " ").toList ++ '(' :: (s.className.toList ++ [')'])

def keyLine (s : DataSource) (keyEnd : List Char) : List Char :=
  s.beanId.toList ++ '.' :: (keyEnd ++ ['='])

/-- The lines of a stanza, the last one blank. -/
def stanzaLines (s : DataSource) : List (List Char) :=
  commentLine s :: (credentialEnds.map (keyLine s) ++ [[]])

def templateLines (sources : List DataSource) : List (List Char) :=
  if sources = [] then ["# No data sources are configured.".toList]
  else sources.flatMap stanzaLines

theorem credentialKeys_eq_map (s : DataSource) :
    credentialKeys s = credentialEnds.map (credentialKey s) := by
  simp [credentialKeys, credentialEnds, credentialKey]

/-- The stanza of a data source is its lines, each with its line end. -/
theorem toList_stanza (s : DataSource) :
    (stanza s).toList = (stanzaLines s).flatMap (· ++ ['\n']) := by
  simp [stanza, stanzaLines, commentLine, keyLine, credentialKeys, credentialEnds,
    String.join_cons]

/-- A template is its lines as well: those of the stanzas in order, or the one comment. -/
theorem toList_templateOf (sources : List DataSource) :
    (templateOf sources).toList = (templateLines sources).flatMap (· ++ ['\n']) := by
  rw [templateOf, templateLines]
  split
  · rfl
  · rw [String.toList_join, List.flatMap_map, List.flatMap_assoc]
    exact List.flatMap_congr fun s _ => toList_stanza s

/-! ## Reading a line of the template -/

/-- A class name that a comment can end with. -/
def PlainClass (s : DataSource) : Prop := ∀ c ∈ s.className.toList, isPlain c = true

/-- The class of a data source is from the table of dialects, so it is plain whatever the
description has. -/
theorem plainClass_of_reference {store : JdbcPojoStoreFactory} {s : DataSource}
    (referred : reference? store = some s) : PlainClass s := by
  have known : (dialects.all fun d => d.dataSource.toList.all isPlain) = true := by
    decide +kernel
  obtain ⟨dialect, -, found⟩ := Option.bind_eq_some_iff.mp (reference?_eq_some referred).2
  obtain ⟨d, hit, source⟩ := Option.map_eq_some_iff.mp found
  rw [PlainClass, ← source]
  exact List.all_eq_true.mp (List.all_eq_true.mp known d (List.mem_of_find?_eq_some hit))

/-- The line that names a data source ends plainly, with the class in brackets, whatever the bean id
is. -/
theorem commentLine_isTail {s : DataSource} (plain : PlainClass s) :
    IsTail '(' (s.className.toList ++ [')']) [] := by
  refine ⟨by decide, fun c mem => ?_, nofun, nofun⟩
  rcases List.mem_append.mp mem with name | last
  · exact plain c name
  · rw [List.mem_singleton.mp last]
    decide

/-- The line of a key ends plainly as well, with the end of the key and the equals sign. -/
theorem keyLine_isTail {keyEnd : List Char} (known : keyEnd ∈ credentialEnds) :
    IsTail '.' keyEnd ['='] := by
  have plain : (credentialEnds.all fun k => k.all isPlain) = true := by decide
  exact ⟨by decide, List.all_eq_true.mp (List.all_eq_true.mp plain keyEnd known),
    by simp [endsKey, isSeparator], by simp [isLineEnd]⟩

/-- No bean id makes a line of a stanza run into the next one. -/
theorem isSegment_of_mem_stanzaLines {s : DataSource} (plain : PlainClass s) {line : List Char}
    (mem : line ∈ stanzaLines s) : IsSegment line := by
  simp only [stanzaLines, List.mem_cons, List.mem_append, List.mem_map, List.not_mem_nil,
    or_false] at mem
  rcases mem with rfl | ⟨keyEnd, known, rfl⟩ | rfl
  · have closed := (commentLine_isTail plain).isSegment ("# " ++ s.beanId ++ " ").toList
    rwa [List.append_nil] at closed
  · exact (keyLine_isTail known).isSegment s.beanId.toList
  · rfl

/-- The lines that a reader finds in a template are those it finds in each line of the stanzas. -/
theorem logicalLines_templateOf {sources : List DataSource}
    (plain : ∀ s ∈ sources, PlainClass s) :
    logicalLines (templateOf sources).toList =
      sources.flatMap fun s => (stanzaLines s).flatMap segmentLines := by
  by_cases empty : sources = []
  · subst empty
    rfl
  · have closed : ∀ line ∈ sources.flatMap stanzaLines, IsSegment line := by
      intro line mem
      obtain ⟨s, declared, inside⟩ := List.mem_flatMap.mp mem
      exact isSegment_of_mem_stanzaLines (plain s declared) inside
    rw [toList_templateOf, templateLines, if_neg empty, logicalLines_segments closed,
      List.flatMap_assoc]

/-- A data source whose bean id is a key that is read as it is written. -/
def HasPlainId (s : DataSource) : Prop := isPlainKey s.beanId.toList = true

instance (s : DataSource) : Decidable (HasPlainId s) := inferInstanceAs (Decidable (_ = true))

/-- Of the stanza of a data source with a plain id, a reader finds the lines of its keys. -/
theorem segmentLines_stanza {s : DataSource} (plain : PlainClass s) (plainId : HasPlainId s) :
    (stanzaLines s).flatMap segmentLines = credentialEnds.map (keyLine s) := by
  have chars := ((isPlainKey_iff _).mp plainId).1
  have comment : segmentLines (commentLine s) = [] := by
    have noEnd : ∀ c ∈ ' ' :: (s.beanId.toList ++ ' ' :: '(' :: (s.className.toList ++ [')'])),
        isLineEnd c = false := by
      have ofPlain (c : Char) (plain : isPlain c = true) : isLineEnd c = false :=
        ((isPlain_iff c).mp plain).2.1
      simp only [List.forall_mem_cons, List.forall_mem_append, List.not_mem_nil, false_imp_iff,
        implies_true, and_true]
      exact ⟨by decide, fun c mem => ofPlain c (chars c mem), by decide, by decide,
        fun c mem => ofPlain c (plain c mem), by decide⟩
    have split : commentLine s =
        '#' :: ' ' :: (s.beanId.toList ++ ' ' :: '(' :: (s.className.toList ++ [')'])) := by
      simp [commentLine]
    rw [split]
    exact segmentLines_comment (by decide) noEnd
  have keys : (credentialEnds.map (keyLine s)).flatMap segmentLines =
      credentialEnds.map (keyLine s) := by
    rw [List.flatMap_map, ← List.flatMap_pure_eq_map]
    exact List.flatMap_congr fun keyEnd known => (keyLine_isTail known).segmentLines_plain plainId
  rw [stanzaLines, List.flatMap_cons, comment, List.flatMap_append, keys]
  exact List.append_nil _

/-! ## Plain ids -/

/-- The credentials of data sources, without values. -/
def blankCredentials (sources : List DataSource) : List (String × String) :=
  sources.flatMap fun s => (credentialKeys s).map fun key => (key, "")

/-- Each data source with each end of its keys. -/
def credentialsOf (sources : List DataSource) : List (DataSource × List Char) :=
  sources.flatMap fun s => credentialEnds.map fun keyEnd => (s, keyEnd)

/-- A template whose bean ids are plain is read as the credentials that it is for. -/
theorem readProperties_templateOf {sources : List DataSource}
    (plain : ∀ s ∈ sources, PlainClass s) (plainIds : ∀ s ∈ sources, HasPlainId s) :
    readProperties (templateOf sources) = some (blankCredentials sources) := by
  have lines : logicalLines (templateOf sources).toList =
      (credentialsOf sources).map fun k => keyLine k.1 k.2 := by
    rw [logicalLines_templateOf plain, credentialsOf, List.map_flatMap]
    refine List.flatMap_congr fun s declared => ?_
    rw [segmentLines_stanza (plain s declared) (plainIds s declared), List.map_map]
    rfl
  have entries : blankCredentials sources =
      (credentialsOf sources).map fun k => (credentialKey k.1 k.2, "") := by
    rw [blankCredentials, credentialsOf, List.map_flatMap]
    refine List.flatMap_congr fun s _ => ?_
    rw [credentialKeys_eq_map, List.map_map, List.map_map]
    rfl
  rw [readProperties, lines, entries]
  refine mapM_readLine fun k mem => ?_
  obtain ⟨s, declared, inside⟩ := List.mem_flatMap.mp mem
  obtain ⟨keyEnd, known, rfl⟩ := List.mem_map.mp inside
  exact (keyLine_isTail known).readLine_of_plain (plainIds s declared)

/-! ## Other ids -/

/-- Two keys are equal only if their bean ids and their ends are. -/
theorem credential_inj {front other keyEnd otherEnd : List Char} (known : keyEnd ∈ credentialEnds)
    (otherKnown : otherEnd ∈ credentialEnds)
    (same : front ++ '.' :: keyEnd = other ++ '.' :: otherEnd) :
    front = other ∧ keyEnd = otherEnd := by
  have endsDiffer : ∀ k ∈ credentialEnds, ∀ l ∈ credentialEnds,
      ('.' :: k).getLast? = ('.' :: l).getLast? → k = l := by decide
  have sameEnd : keyEnd = otherEnd := by
    refine endsDiffer keyEnd known otherEnd otherKnown ?_
    have lasts := congrArg List.getLast? same
    simpa only [List.getLast?_append_cons] using lasts
  subst sameEnd
  exact ⟨List.append_cancel_right same, rfl⟩

/-- The stanza of a data source without plain id gives the keys of shorter ids only. -/
theorem length_lt_of_mem_segmentLines {s : DataSource} (plain : PlainClass s)
    (otherwise : ¬ HasPlainId s) {segment line : List Char} (inside : segment ∈ stanzaLines s)
    (mem : line ∈ segmentLines segment) {beanId : List Char} {key value : String}
    (read : readLine line = some (key, value))
    (named : key.toList = beanId ++ '.' :: "jdbc.url".toList) :
    beanId.length < s.beanId.toList.length := by
  have long : key.toList.length = beanId.length + 9 := by
    rw [named]
    simp
  simp only [stanzaLines, List.mem_cons, List.mem_append, List.mem_map, List.not_mem_nil,
    or_false] at inside
  rcases inside with rfl | ⟨keyEnd, known, rfl⟩ | rfl
  · rw [commentLine, ← List.append_nil (_ ++ [')'])] at mem
    rcases (commentLine_isTail plain).exists_front_of_mem mem read with short | ⟨front, same, -, -⟩
    · simp only [String.toList_append, List.length_append] at short
      have margins : "# ".toList.length = 2 ∧ " ".toList.length = 1 := by decide
      omega
    · -- A key that goes on to the class ends with a parenthesis.
      have lasts := congrArg List.getLast? (same.symm.trans named)
      rw [← List.cons_append, ← List.append_assoc, List.getLast?_append_cons,
        List.getLast?_append_cons] at lasts
      exact absurd lasts (by decide)
  · rcases (keyLine_isTail known).exists_front_of_mem mem read with
      short | ⟨front, same, bound, whole⟩
    · omega
    · have url : "jdbc.url".toList ∈ credentialEnds := by decide
      obtain ⟨rfl, rfl⟩ := credential_inj known url (same.symm.trans named)
      rcases Nat.lt_or_eq_of_le bound with less | full
      · exact less
      · obtain ⟨-, plainId⟩ := whole full
        exact absurd plainId otherwise
  · cases mem

/-- If a reader finds the first key of a data source without plain id, there is another one with a
longer id. -/
theorem exists_longer {sources : List DataSource} (plain : ∀ s ∈ sources, PlainClass s)
    {entries : List (String × String)}
    (read : readProperties (templateOf sources) = some entries) {s : DataSource}
    (otherwise : ¬ HasPlainId s)
    (found : credentialKey s "jdbc.url".toList ∈ entries.map Prod.fst) :
    ∃ longer ∈ sources, ¬ HasPlainId longer ∧
      s.beanId.toList.length < longer.beanId.toList.length := by
  obtain ⟨⟨key, value⟩, mem, named⟩ := List.mem_map.mp found
  obtain ⟨line, inTemplate, readEntry⟩ := exists_line_of_mem read mem
  rw [logicalLines_templateOf plain, List.mem_flatMap] at inTemplate
  obtain ⟨source, declared, inStanza⟩ := inTemplate
  have spelled : key.toList = s.beanId.toList ++ '.' :: "jdbc.url".toList := by
    rw [← show credentialKey s "jdbc.url".toList = key from named.symm, credentialKey,
      String.toList_ofList]
  by_cases plainId : HasPlainId source
  · -- The keys of a plain id are those of no other id.
    rw [segmentLines_stanza (plain source declared) plainId] at inStanza
    obtain ⟨keyEnd, known, rfl⟩ := List.mem_map.mp inStanza
    rw [keyLine, (keyLine_isTail known).readLine_of_plain plainId] at readEntry
    have same : source.beanId.toList ++ '.' :: keyEnd =
        s.beanId.toList ++ '.' :: "jdbc.url".toList := by
      rw [← spelled, ← (Prod.mk.inj (Option.some.inj readEntry)).1, String.toList_ofList]
    have sameId := (credential_inj known (by decide) same).1
    rw [HasPlainId, sameId] at plainId
    exact absurd plainId otherwise
  · obtain ⟨segment, inside, lineOf⟩ := List.mem_flatMap.mp inStanza
    exact ⟨source, declared, plainId, length_lt_of_mem_segmentLines (plain source declared)
      plainId inside lineOf readEntry spelled⟩

/-- A reader finds the credentials of all data sources only if all ids are plain. -/
theorem hasPlainId_of_found {sources : List DataSource} (plain : ∀ s ∈ sources, PlainClass s)
    {entries : List (String × String)}
    (read : readProperties (templateOf sources) = some entries)
    (found : ∀ s ∈ sources, ∀ key ∈ credentialKeys s, key ∈ entries.map Prod.fst) :
    ∀ s ∈ sources, HasPlainId s := by
  by_contra! others
  obtain ⟨s, declared, otherwise⟩ := others
  have nonempty : (sources.toFinset.filter fun s => ¬ HasPlainId s).Nonempty :=
    ⟨s, by simp [declared, otherwise]⟩
  obtain ⟨longest, mem, most⟩ :=
    Finset.exists_max_image _ (fun s => s.beanId.toList.length) nonempty
  simp only [Finset.mem_filter, List.mem_toFinset] at mem most
  have known : credentialKey longest "jdbc.url".toList ∈ credentialKeys longest := by
    rw [credentialKeys_eq_map]
    exact List.mem_map_of_mem (by decide)
  obtain ⟨longer, declaredToo, otherwiseToo, less⟩ :=
    exists_longer plain read mem.2 (found longest mem.1 _ known)
  exact absurd (most longer ⟨declaredToo, otherwiseToo⟩) (by omega)

/-! ## Main results -/

/-- Data sources with different ids have different keys, whatever the ids are. -/
theorem nodup_credentialKeys {sources : List DataSource}
    (distinct : (sources.map DataSource.beanId).Nodup) :
    (sources.flatMap credentialKeys).Nodup := by
  have same {s other : DataSource} {k l : List Char} (known : k ∈ credentialEnds)
      (otherKnown : l ∈ credentialEnds) (same : credentialKey s k = credentialKey other l) :
      s.beanId = other.beanId ∧ k = l := by
    obtain ⟨ids, keyEnds⟩ := credential_inj known otherKnown (String.ofList_injective same)
    exact ⟨String.toList_inj.mp ids, keyEnds⟩
  rw [List.nodup_flatMap]
  constructor
  · intro s _
    rw [credentialKeys_eq_map]
    exact List.Nodup.map_on (fun k known l otherKnown eq => (same known otherKnown eq).2)
      (by decide)
  · refine (List.pairwise_map.mp distinct).imp fun {s other} differ => ?_
    show List.Disjoint (credentialKeys s) (credentialKeys other)
    rw [credentialKeys_eq_map, credentialKeys_eq_map]
    intro key mem otherMem
    obtain ⟨k, known, rfl⟩ := List.mem_map.mp mem
    obtain ⟨l, otherKnown, eq⟩ := List.mem_map.mp otherMem
    exact differ (same otherKnown known eq).1.symm

theorem plainClass_of_mem {caches : List CacheConfig} :
    ∀ s ∈ firstById (references caches), PlainClass s := by
  intro s mem
  obtain ⟨cache, -, referred⟩ := List.mem_filterMap.mp ((firstById_sublist _).subset mem)
  obtain ⟨store, -, same⟩ := Option.bind_eq_some_iff.mp referred
  exact plainClass_of_reference same

/-- The template of a cluster is read as the three credentials of each of its data sources, all
without a value and with different keys, exactly if all bean ids are plain keys. If not all are, the
template cannot be read or lacks a key that some bean of the document refers to. -/
theorem template_reads_iff (c : ClusterConfig) (template : String)
    (generated : secretProperties c = .ok template) :
    ∃ sources : List DataSource,
      sources = firstById (references c.caches) ∧ (nodeBeans c none).registered = sources ∧
      (readProperties template = some (blankCredentials sources) ↔
        ∀ s ∈ sources, HasPlainId s) ∧
      ((blankCredentials sources).map Prod.fst).Nodup ∧
      ((∃ entries, readProperties template = some entries ∧
          ∀ s ∈ sources, ∀ key ∈ credentialKeys s, key ∈ entries.map Prod.fst) ↔
        ∀ s ∈ sources, HasPlainId s) ∧
      ∀ (clientNear : Option NearCacheConfig) (options : DocumentOptions) (text : String),
        clusterDocument c clientNear options = .ok text →
        readDocument text =
            some (documentNode (preambleNodes options sources ++ nodeNodes c clientNear)) ∧
          ∀ s ∈ sources, propertyValues (sourceNode s) = (credentialKeys s).map referenceTo := by
  have fine : faults c none = [] := (secretProperties_ok_iff c).mp ⟨template, generated⟩
  have plain : ∀ s ∈ firstById (references c.caches), PlainClass s := plainClass_of_mem
  have written : template = templateOf (firstById (references c.caches)) :=
    Except.ok.inj (generated.symm.trans (secretProperties_ok fine))
  subst written
  have keys : (blankCredentials (firstById (references c.caches))).map Prod.fst =
      (firstById (references c.caches)).flatMap credentialKeys := by
    rw [blankCredentials, List.map_flatMap]
    refine List.flatMap_congr fun s _ => ?_
    rw [List.map_map]
    exact List.map_id _
  have listed : ∀ s ∈ firstById (references c.caches), ∀ key ∈ credentialKeys s,
      key ∈ (blankCredentials (firstById (references c.caches))).map Prod.fst := by
    intro s declared key mem
    rw [keys]
    exact List.mem_flatMap_of_mem declared mem
  refine ⟨_, rfl, registered_nodeBeans fine, ⟨fun read => ?_, readProperties_templateOf plain⟩,
    ?_, ⟨?_, fun plainIds => ⟨_, readProperties_templateOf plain plainIds, listed⟩⟩,
    fun clientNear options text document => ⟨clusterDocument_beans document, fun s _ => rfl⟩⟩
  · exact hasPlainId_of_found plain read listed
  · rw [keys]
    exact nodup_credentialKeys (firstById_distinct _)
  · rintro ⟨entries, read, found⟩
    exact hasPlainId_of_found plain read found

/-- The template of two data sources, read as a properties file: three keys for each, without
values. -/
theorem sharingCluster_reads :
    ∃ template, secretProperties sharingCluster = .ok template ∧
      readProperties template = some [("a&\"b<.jdbc.url", ""), ("a&\"b<.jdbc.username", ""),
        ("a&\"b<.jdbc.password", ""), ("dsOracle.jdbc.url", ""), ("dsOracle.jdbc.username", ""),
        ("dsOracle.jdbc.password", "")] := by
  obtain ⟨template, generated⟩ :=
    (secretProperties_ok_iff sharingCluster).mpr (faults_none faults_sharingCluster)
  obtain ⟨sources, rfl, -, reads, -⟩ := template_reads_iff _ _ generated
  have plainIds : ∀ s ∈ firstById (references sharingCluster.caches), HasPlainId s := by decide
  exact ⟨template, generated, reads.mpr plainIds⟩

/-- A cluster with a data source that has a blank in its name. -/
def spacedCluster : ClusterConfig :=
  { ClusterConfig.unset with caches := [.stored "my ds" "H2"] }

/-- The credentials of a data source with a blank in its name are not found in the template. -/
theorem spacedCluster_misread :
    ∃ template, secretProperties spacedCluster = .ok template ∧
      (nodeBeans spacedCluster none).registered = [⟨"my ds", "org.h2.jdbcx.JdbcDataSource"⟩] ∧
      readProperties template = some [("my", "ds.jdbc.url="), ("my", "ds.jdbc.username="),
        ("my", "ds.jdbc.password=")] ∧
      readProperties template ≠
        some (blankCredentials (nodeBeans spacedCluster none).registered) := by
  have noFault : faults spacedCluster none = [] := by decide
  have declared : firstById (references spacedCluster.caches) =
      [⟨"my ds", "org.h2.jdbcx.JdbcDataSource"⟩] := by decide
  have registered := (registered_nodeBeans noFault).trans declared
  have read : readProperties (templateOf (firstById (references spacedCluster.caches))) =
      some [("my", "ds.jdbc.url="), ("my", "ds.jdbc.username="), ("my", "ds.jdbc.password=")] := by
    rw [declared]
    decide +kernel
  refine ⟨_, secretProperties_ok noFault, registered, read, ?_⟩
  rw [read, registered]
  decide

end GridBeans.Generation
