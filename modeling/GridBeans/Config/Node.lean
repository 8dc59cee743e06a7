import GridBeans.Document.Reader

/-!
# Settings of a node

The parts of a node that are configured by one record each: atomics, transactions, marshalling and
swap space.
-/
namespace GridBeans.Config

open GridBeans.Document
open GridBeans.Decimal (Double)

structure AtomicConfiguration where
  backups : Option Int
  cacheMode : Option String
  atomicSequenceReserveSize : Option Int
  deriving DecidableEq, Repr

def AtomicConfiguration.schema {ν : Type} [Source ν] : Fields ν AtomicConfiguration :=
  AtomicConfiguration.mk
    <$> optional "backups" integer
    <*> optional "cacheMode" text
    <*> optional "atomicSequenceReserveSize" integer

def AtomicConfiguration.codec {ν : Type} [Source ν] : Codec ν AtomicConfiguration :=
  record "AtomicConfiguration" AtomicConfiguration.schema

structure TransactionConfiguration where
  defaultTxConcurrency : Option String
  transactionIsolation : Option String
  defaultTxTimeout : Option Int
  pessimisticTxLogLinger : Option Int
  pessimisticTxLogSize : Option Int
  txSerializableEnabled : Option Bool
  deriving DecidableEq, Repr

def TransactionConfiguration.schema {ν : Type} [Source ν] : Fields ν TransactionConfiguration :=
  TransactionConfiguration.mk
    <$> optional "defaultTxConcurrency" text
    <*> optional "transactionIsolation" text
    <*> optional "defaultTxTimeout" integer
    <*> optional "pessimisticTxLogLinger" integer
    <*> optional "pessimisticTxLogSize" integer
    <*> optional "txSerializableEnabled" bool

def TransactionConfiguration.codec {ν : Type} [Source ν] : Codec ν TransactionConfiguration :=
  record "TransactionConfiguration" TransactionConfiguration.schema

/-- The marshaller with a pool of streams. -/
structure OptimizedMarshaller where
  poolSize : Option Int
  requireSerializable : Option Bool
  deriving DecidableEq, Repr

def OptimizedMarshaller.schema {ν : Type} [Source ν] : Fields ν OptimizedMarshaller :=
  OptimizedMarshaller.mk
    <$> optional "poolSize" integer
    <*> optional "requireSerializable" bool

def OptimizedMarshaller.codec {ν : Type} [Source ν] : Codec ν OptimizedMarshaller :=
  record "OptimizedMarshaller" OptimizedMarshaller.schema

structure JdkMarshaller where
  deriving DecidableEq, Repr

def JdkMarshaller.schema {ν : Type} [Source ν] : Fields ν JdkMarshaller :=
  pure ⟨⟩

def JdkMarshaller.codec {ν : Type} [Source ν] : Codec ν JdkMarshaller :=
  record "JdkMarshaller" JdkMarshaller.schema

/-- The marshaller by name, and the section of each one. -/
structure MarshallerConfig where
  kind : Option String
  optimized : Option OptimizedMarshaller
  jdk : Option JdkMarshaller
  deriving DecidableEq, Repr

def MarshallerConfig.schema {ν : Type} [Source ν] : Fields ν MarshallerConfig :=
  MarshallerConfig.mk
    <$> optional "kind" text
    <*> optional "OptimizedMarshaller" OptimizedMarshaller.codec
    <*> optional "JdkMarshaller" JdkMarshaller.codec

def MarshallerConfig.codec {ν : Type} [Source ν] : Codec ν MarshallerConfig :=
  record "MarshallerConfig" MarshallerConfig.schema

structure FileSwapSpaceSpi where
  baseDirectory : Option String
  readStripesNumber : Option Int
  maximumSparsity : Option Double
  maxWriteQueueSize : Option Int
  writeBufferSize : Option Int
  deriving DecidableEq, Repr

def FileSwapSpaceSpi.schema {ν : Type} [Source ν] : Fields ν FileSwapSpaceSpi :=
  FileSwapSpaceSpi.mk
    <$> optional "baseDirectory" text
    <*> optional "readStripesNumber" integer
    <*> optional "maximumSparsity" double
    <*> optional "maxWriteQueueSize" integer
    <*> optional "writeBufferSize" integer

def FileSwapSpaceSpi.codec {ν : Type} [Source ν] : Codec ν FileSwapSpaceSpi :=
  record "FileSwapSpaceSpi" FileSwapSpaceSpi.schema

/-- The swap space by name, and its section. -/
structure SwapSpaceSpiConfig where
  kind : Option String
  file : Option FileSwapSpaceSpi
  deriving DecidableEq, Repr

def SwapSpaceSpiConfig.schema {ν : Type} [Source ν] : Fields ν SwapSpaceSpiConfig :=
  SwapSpaceSpiConfig.mk
    <$> optional "kind" text
    <*> optional "FileSwapSpaceSpi" FileSwapSpaceSpi.codec

def SwapSpaceSpiConfig.codec {ν : Type} [Source ν] : Codec ν SwapSpaceSpiConfig :=
  record "SwapSpaceSpiConfig" SwapSpaceSpiConfig.schema

end GridBeans.Config
