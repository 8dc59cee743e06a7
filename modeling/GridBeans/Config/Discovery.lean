import GridBeans.Document.Reader

/-!
# Discovery

How the nodes of a cluster find each other: the name of a finder, and a section of settings for
each of them. Only the section of the named finder counts.
-/
namespace GridBeans.Config

open GridBeans.Document

/-- Nodes answer requests sent to a multicast group. -/
structure MulticastIpFinder where
  multicastGroup : Option String
  multicastPort : Option Int
  responseWaitTime : Option Int
  addressRequestAttempts : Option Int
  localAddress : Option String
  deriving DecidableEq, Repr

def MulticastIpFinder.schema {ν : Type} [Source ν] : Fields ν MulticastIpFinder :=
  MulticastIpFinder.mk
    <$> optional "multicastGroup" text
    <*> optional "multicastPort" integer
    <*> optional "responseWaitTime" integer
    <*> optional "addressRequestAttempts" integer
    <*> optional "localAddress" text

def MulticastIpFinder.codec {ν : Type} [Source ν] : Codec ν MulticastIpFinder :=
  record "MulticastIpFinder" MulticastIpFinder.schema

/-- The addresses are given. -/
structure VmIpFinder where
  addresses : List String
  deriving DecidableEq, Repr

def VmIpFinder.schema {ν : Type} [Source ν] : Fields ν VmIpFinder :=
  VmIpFinder.mk
    <$> listed "addresses" text

def VmIpFinder.codec {ν : Type} [Source ν] : Codec ν VmIpFinder :=
  record "VmIpFinder" VmIpFinder.schema

/-- Addresses are kept in a storage bucket. -/
structure S3IpFinder where
  bucketName : Option String
  deriving DecidableEq, Repr

def S3IpFinder.schema {ν : Type} [Source ν] : Fields ν S3IpFinder :=
  S3IpFinder.mk
    <$> optional "bucketName" text

def S3IpFinder.codec {ν : Type} [Source ν] : Codec ν S3IpFinder :=
  record "S3IpFinder" S3IpFinder.schema

/-- Addresses are asked from a cloud provider. -/
structure CloudIpFinder where
  credential : Option String
  credentialPath : Option String
  identity : Option String
  provider : Option String
  regions : List String
  zones : List String
  deriving DecidableEq, Repr

def CloudIpFinder.schema {ν : Type} [Source ν] : Fields ν CloudIpFinder :=
  CloudIpFinder.mk
    <$> optional "credential" text
    <*> optional "credentialPath" text
    <*> optional "identity" text
    <*> optional "provider" text
    <*> listed "regions" text
    <*> listed "zones" text

def CloudIpFinder.codec {ν : Type} [Source ν] : Codec ν CloudIpFinder :=
  record "CloudIpFinder" CloudIpFinder.schema

/-- Addresses are kept in a bucket that needs a service account. -/
structure GoogleStorageIpFinder where
  projectName : Option String
  bucketName : Option String
  serviceAccountP12FilePath : Option String
  serviceAccountId : Option String
  deriving DecidableEq, Repr

def GoogleStorageIpFinder.schema {ν : Type} [Source ν] : Fields ν GoogleStorageIpFinder :=
  GoogleStorageIpFinder.mk
    <$> optional "projectName" text
    <*> optional "bucketName" text
    <*> optional "serviceAccountP12FilePath" text
    <*> optional "serviceAccountId" text

def GoogleStorageIpFinder.codec {ν : Type} [Source ν] : Codec ν GoogleStorageIpFinder :=
  record "GoogleStorageIpFinder" GoogleStorageIpFinder.schema

/-- Addresses are kept in a database. -/
structure JdbcIpFinder where
  initSchema : Option Bool
  deriving DecidableEq, Repr

def JdbcIpFinder.schema {ν : Type} [Source ν] : Fields ν JdbcIpFinder :=
  JdbcIpFinder.mk
    <$> optional "initSchema" bool

def JdbcIpFinder.codec {ν : Type} [Source ν] : Codec ν JdbcIpFinder :=
  record "JdbcIpFinder" JdbcIpFinder.schema

/-- Addresses are kept in a shared directory. -/
structure SharedFsIpFinder where
  path : Option String
  deriving DecidableEq, Repr

def SharedFsIpFinder.schema {ν : Type} [Source ν] : Fields ν SharedFsIpFinder :=
  SharedFsIpFinder.mk
    <$> optional "path" text

def SharedFsIpFinder.codec {ν : Type} [Source ν] : Codec ν SharedFsIpFinder :=
  record "SharedFsIpFinder" SharedFsIpFinder.schema

/-- The finder by name, and the section of each finder. -/
structure DiscoveryConfig where
  kind : String
  multicast : Option MulticastIpFinder
  vm : Option VmIpFinder
  s3 : Option S3IpFinder
  cloud : Option CloudIpFinder
  googleStorage : Option GoogleStorageIpFinder
  jdbc : Option JdbcIpFinder
  sharedFs : Option SharedFsIpFinder
  deriving DecidableEq, Repr

def DiscoveryConfig.schema {ν : Type} [Source ν] : Fields ν DiscoveryConfig :=
  DiscoveryConfig.mk
    <$> textOrEmpty "kind"
    <*> optional "Multicast" MulticastIpFinder.codec
    <*> optional "Vm" VmIpFinder.codec
    <*> optional "S3" S3IpFinder.codec
    <*> optional "Cloud" CloudIpFinder.codec
    <*> optional "GoogleStorage" GoogleStorageIpFinder.codec
    <*> optional "Jdbc" JdbcIpFinder.codec
    <*> optional "SharedFs" SharedFsIpFinder.codec

def DiscoveryConfig.codec {ν : Type} [Source ν] : Codec ν DiscoveryConfig :=
  record "DiscoveryConfig" DiscoveryConfig.schema

end GridBeans.Config
