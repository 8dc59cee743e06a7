/-!
# Event groups

The groups of events that a cluster can be told to record, each with its events in order.
-/
namespace GridBeans.Catalogue

structure EventGroup where
  name : String
  events : List String
  deriving DecidableEq, Repr

def eventGroups : List EventGroup := [
  ⟨"EVTS_CHECKPOINT", [
    "EVT_CHECKPOINT_SAVED",
    "EVT_CHECKPOINT_LOADED",
    "EVT_CHECKPOINT_REMOVED"]⟩,
  ⟨"EVTS_DEPLOYMENT", [
    "EVT_CLASS_DEPLOYED",
    "EVT_CLASS_UNDEPLOYED",
    "EVT_CLASS_DEPLOY_FAILED",
    "EVT_TASK_DEPLOYED",
    "EVT_TASK_UNDEPLOYED",
    "EVT_TASK_DEPLOY_FAILED"]⟩,
  ⟨"EVTS_ERROR", [
    "EVT_JOB_TIMEDOUT",
    "EVT_JOB_FAILED",
    "EVT_JOB_FAILED_OVER",
    "EVT_JOB_REJECTED",
    "EVT_JOB_CANCELLED",
    "EVT_TASK_TIMEDOUT",
    "EVT_TASK_FAILED",
    "EVT_CLASS_DEPLOY_FAILED",
    "EVT_TASK_DEPLOY_FAILED",
    "EVT_TASK_DEPLOYED",
    "EVT_TASK_UNDEPLOYED",
    "EVT_CACHE_REBALANCE_STARTED",
    "EVT_CACHE_REBALANCE_STOPPED"]⟩,
  ⟨"EVTS_DISCOVERY", [
    "EVT_NODE_JOINED",
    "EVT_NODE_LEFT",
    "EVT_NODE_FAILED",
    "EVT_NODE_SEGMENTED",
    "EVT_CLIENT_NODE_DISCONNECTED",
    "EVT_CLIENT_NODE_RECONNECTED"]⟩,
  ⟨"EVTS_JOB_EXECUTION", [
    "EVT_JOB_MAPPED",
    "EVT_JOB_RESULTED",
    "EVT_JOB_FAILED_OVER",
    "EVT_JOB_STARTED",
    "EVT_JOB_FINISHED",
    "EVT_JOB_TIMEDOUT",
    "EVT_JOB_REJECTED",
    "EVT_JOB_FAILED",
    "EVT_JOB_QUEUED",
    "EVT_JOB_CANCELLED"]⟩,
  ⟨"EVTS_TASK_EXECUTION", [
    "EVT_TASK_STARTED",
    "EVT_TASK_FINISHED",
    "EVT_TASK_FAILED",
    "EVT_TASK_TIMEDOUT",
    "EVT_TASK_SESSION_ATTR_SET",
    "EVT_TASK_REDUCED"]⟩,
  ⟨"EVTS_CACHE", [
    "EVT_CACHE_ENTRY_CREATED",
    "EVT_CACHE_ENTRY_DESTROYED",
    "EVT_CACHE_OBJECT_PUT",
    "EVT_CACHE_OBJECT_READ",
    "EVT_CACHE_OBJECT_REMOVED",
    "EVT_CACHE_OBJECT_LOCKED",
    "EVT_CACHE_OBJECT_UNLOCKED",
    "EVT_CACHE_OBJECT_SWAPPED",
    "EVT_CACHE_OBJECT_UNSWAPPED",
    "EVT_CACHE_OBJECT_EXPIRED"]⟩,
  ⟨"EVTS_CACHE_REBALANCE", [
    "EVT_CACHE_REBALANCE_STARTED",
    "EVT_CACHE_REBALANCE_STOPPED",
    "EVT_CACHE_REBALANCE_PART_LOADED",
    "EVT_CACHE_REBALANCE_PART_UNLOADED",
    "EVT_CACHE_REBALANCE_OBJECT_LOADED",
    "EVT_CACHE_REBALANCE_OBJECT_UNLOADED",
    "EVT_CACHE_REBALANCE_PART_DATA_LOST"]⟩,
  ⟨"EVTS_CACHE_LIFECYCLE", [
    "EVT_CACHE_STARTED",
    "EVT_CACHE_STOPPED",
    "EVT_CACHE_NODES_LEFT"]⟩,
  ⟨"EVTS_CACHE_QUERY", [
    "EVT_CACHE_QUERY_EXECUTED",
    "EVT_CACHE_QUERY_OBJECT_READ"]⟩,
  ⟨"EVTS_SWAPSPACE", [
    "EVT_SWAP_SPACE_CLEARED",
    "EVT_SWAP_SPACE_DATA_REMOVED",
    "EVT_SWAP_SPACE_DATA_READ",
    "EVT_SWAP_SPACE_DATA_STORED",
    "EVT_SWAP_SPACE_DATA_EVICTED"]⟩,
  ⟨"EVTS_IGFS", [
    "EVT_IGFS_FILE_CREATED",
    "EVT_IGFS_FILE_RENAMED",
    "EVT_IGFS_FILE_DELETED",
    "EVT_IGFS_FILE_OPENED_READ",
    "EVT_IGFS_FILE_OPENED_WRITE",
    "EVT_IGFS_FILE_CLOSED_WRITE",
    "EVT_IGFS_FILE_CLOSED_READ",
    "EVT_IGFS_FILE_PURGE",
    "EVT_IGFS_META_UPDATED",
    "EVT_IGFS_DIR_CREATED",
    "EVT_IGFS_DIR_RENAMED",
    "EVT_IGFS_DIR_DELETED"]⟩]

/-- The events of a group; none if there is no group of that name. -/
def eventsOf? (name : String) : Option (List String) :=
  (eventGroups.find? fun group => group.name == name).map EventGroup.events

end GridBeans.Catalogue
