import GridBeans.Document.Reader

/-!
# Eviction

Which entries leave a cache first, and the near cache of a node with its own eviction.
-/
namespace GridBeans.Config

open GridBeans.Document

structure EvictionPolicyFields where
  batchSize : Option Int
  maxMemorySize : Option Int
  maxSize : Option Int
  deriving DecidableEq, Repr

def EvictionPolicyFields.schema {ν : Type} [Source ν] : Fields ν EvictionPolicyFields :=
  EvictionPolicyFields.mk
    <$> optional "batchSize" integer
    <*> optional "maxMemorySize" integer
    <*> optional "maxSize" integer

def EvictionPolicyFields.codec {ν : Type} [Source ν] : Codec ν EvictionPolicyFields :=
  record "EvictionPolicyFields" EvictionPolicyFields.schema

/-- The policy by name, and the limits for each one. -/
structure EvictionPolicyConfig where
  kind : Option String
  lru : Option EvictionPolicyFields
  rnd : Option EvictionPolicyFields
  fifo : Option EvictionPolicyFields
  sorted : Option EvictionPolicyFields
  deriving DecidableEq, Repr

def EvictionPolicyConfig.schema {ν : Type} [Source ν] : Fields ν EvictionPolicyConfig :=
  EvictionPolicyConfig.mk
    <$> optional "kind" text
    <*> optional "LRU" EvictionPolicyFields.codec
    <*> optional "RND" EvictionPolicyFields.codec
    <*> optional "FIFO" EvictionPolicyFields.codec
    <*> optional "SORTED" EvictionPolicyFields.codec

def EvictionPolicyConfig.codec {ν : Type} [Source ν] : Codec ν EvictionPolicyConfig :=
  record "EvictionPolicyConfig" EvictionPolicyConfig.schema

structure NearCacheConfig where
  nearStartSize : Option Int
  nearEvictionPolicy : Option EvictionPolicyConfig
  deriving DecidableEq, Repr

def NearCacheConfig.schema {ν : Type} [Source ν] : Fields ν NearCacheConfig :=
  NearCacheConfig.mk
    <$> optional "nearStartSize" integer
    <*> optional "nearEvictionPolicy" EvictionPolicyConfig.codec

def NearCacheConfig.codec {ν : Type} [Source ν] : Codec ν NearCacheConfig :=
  record "NearCacheConfig" NearCacheConfig.schema

end GridBeans.Config
