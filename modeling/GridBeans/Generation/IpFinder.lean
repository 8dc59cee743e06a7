import GridBeans.Config.Discovery
import GridBeans.Generation.Property
import GridBeans.Text.Blank

/-!
# Discovery

The discovery property of a node: a discovery bean around the bean of the chosen finder.
-/
namespace GridBeans.Generation

open GridBeans.Markup GridBeans.Config

inductive FinderKind where
  | multicast | vm | s3 | cloud | googleStorage | jdbc | sharedFs
  deriving DecidableEq, Repr

namespace FinderKind

def all : List FinderKind :=
  [.multicast, .vm, .s3, .cloud, .googleStorage, .jdbc, .sharedFs]

def name : FinderKind → String
  | .multicast => "Multicast"
  | .vm => "Vm"
  | .s3 => "S3"
  | .cloud => "Cloud"
  | .googleStorage => "GoogleStorage"
  | .jdbc => "Jdbc"
  | .sharedFs => "SharedFs"

def className : FinderKind → String
  | .multicast =>
    "org.apache.ignite.spi.discovery.tcp.ipfinder.multicast.TcpDiscoveryMulticastIpFinder"
  | .vm => "org.apache.ignite.spi.discovery.tcp.ipfinder.vm.TcpDiscoveryVmIpFinder"
  | .s3 => "org.apache.ignite.spi.discovery.tcp.ipfinder.s3.TcpDiscoveryS3IpFinder"
  | .cloud => "org.apache.ignite.spi.discovery.tcp.ipfinder.cloud.TcpDiscoveryCloudIpFinder"
  | .googleStorage =>
    "org.apache.ignite.spi.discovery.tcp.ipfinder.gce.TcpDiscoveryGoogleStorageIpFinder"
  | .jdbc => "org.apache.ignite.spi.discovery.tcp.ipfinder.jdbc.TcpDiscoveryJdbcIpFinder"
  | .sharedFs =>
    "org.apache.ignite.spi.discovery.tcp.ipfinder.sharedfs.TcpDiscoverySharedFsIpFinder"

def ofName (kind : String) : Except Failure FinderKind :=
  match all.find? (·.name == kind) with
  | some k => .ok k
  | none => .error (.unknownKind .discovery kind)

end FinderKind

/-- The finder that a discovery section chooses, with its settings. -/
inductive IpFinder where
  | multicast (settings : MulticastIpFinder)
  | vm (settings : VmIpFinder)
  | s3 (settings : Option S3IpFinder)
  | cloud (settings : CloudIpFinder)
  | googleStorage (settings : GoogleStorageIpFinder)
  | jdbc (settings : JdbcIpFinder)
  | sharedFs (settings : SharedFsIpFinder)
  deriving DecidableEq, Repr

def IpFinder.kind : IpFinder → FinderKind
  | .multicast _ => .multicast
  | .vm _ => .vm
  | .s3 _ => .s3
  | .cloud _ => .cloud
  | .googleStorage _ => .googleStorage
  | .jdbc _ => .jdbc
  | .sharedFs _ => .sharedFs

/-- The section of a kind, which has to be given. -/
def requiredSection {α : Type} (slot : Slot) (kind : String) : Option α → Except Failure α
  | some a => .ok a
  | none => .error (.missingSection slot kind)

/-- The chosen finder. Its section has to be given, except that of a bucket. -/
def IpFinder.ofConfig (d : DiscoveryConfig) : Except Failure IpFinder := do
  let kind ← FinderKind.ofName d.kind
  match kind with
  | .multicast => .multicast <$> requiredSection .discovery kind.name d.multicast
  | .vm => .vm <$> requiredSection .discovery kind.name d.vm
  | .s3 => .ok (.s3 d.s3)
  | .cloud => .cloud <$> requiredSection .discovery kind.name d.cloud
  | .googleStorage => .googleStorage <$> requiredSection .discovery kind.name d.googleStorage
  | .jdbc => .jdbc <$> requiredSection .discovery kind.name d.jdbc
  | .sharedFs => .sharedFs <$> requiredSection .discovery kind.name d.sharedFs

/-- The bean of a finder. A finder that would have no property is written without content, except
that of a bucket, which keeps an empty block. -/
def IpFinder.bean (finder : IpFinder) : Script Unit :=
  let className := finder.kind.className
  let empty : Script Unit := .line (beanTag (.written className))
  match finder with
  | .multicast m => beanBlock className do
      property "multicastGroup" m.multicastGroup
      property "multicastPort" m.multicastPort
      property "responseWaitTime" m.responseWaitTime
      property "addressRequestAttempts" m.addressRequestAttempts
      property "localAddress" m.localAddress
  | .vm v =>
    if v.addresses.isEmpty then empty
    else beanBlock className (listProperty "addresses" "list" v.addresses)
  | .s3 s => beanBlock className <|
      match Text.nonEmpty? (s.bind (·.bucketName)) with
      | some bucket => .line (propertyTag "bucketName" (.plain bucket))
      | none => pure ()
  | .cloud c => beanBlock className do
      property "credential" c.credential
      property "credentialPath" c.credentialPath
      property "identity" c.identity
      property "provider" c.provider
      listProperty "regions" "list" c.regions
      listProperty "zones" "list" c.zones
  | .googleStorage g => beanBlock className do
      property "projectName" g.projectName
      property "bucketName" g.bucketName
      property "serviceAccountP12FilePath" g.serviceAccountP12FilePath
      property "serviceAccountId" g.serviceAccountId
  | .jdbc j => beanBlock className (property "initSchema" (some (j.initSchema.getD false)))
  | .sharedFs f =>
    match Text.nonEmpty? f.path with
    | some path => beanBlock className (property "path" (some path))
    | none => empty

def tcpDiscoverySpi : String := "org.apache.ignite.spi.discovery.tcp.TcpDiscoverySpi"

def discovery (d : DiscoveryConfig) : Script Unit := do
  let finder ← Script.ofExcept (IpFinder.ofConfig d)
  Script.sectionStart
  propertyBlock "discoverySpi"
    (beanBlock tcpDiscoverySpi (propertyBlock "ipFinder" finder.bean))

end GridBeans.Generation
