import Dashboard.Context.Snapshot
import Dashboard.Cron.Snapshot
import Dashboard.Json.Spelling
import Dashboard.Slop.Snapshot
import Dashboard.Stats.Snapshot
import Dashboard.Tools.Snapshot
import Mathlib.Data.Option.Defs
/-!
# Other spellings of what loads bring

Which fields the records of each tab have, and so how else a daemon may spell what a tab asks for.

* `Tab.Report.Respells` — a report whose payloads are spelled otherwise.
* `Cron.Snapshot.Respells`, `Stats.Snapshot.Respells`, `Slop.Snapshot.Respells`,
  `Tools.Snapshot.Respells`, `Context.Snapshot.Respells` — the spellings of the payload of each
  method of a tab.
-/

namespace Dashboard

open Json

/-- The same report, with the payloads of the methods in other spellings. -/
def Tab.Report.Respells (spelling : String → Json → Json → Prop) (r r' : Report) : Prop :=
  List.Forall₂ (fun o o' => o'.method = o.method ∧ o'.reply.success = o.reply.success ∧
    Option.Rel (spelling o.method) o.reply.data o'.reply.data) r.outcomes r'.outcomes

namespace Cron

def Job.record : Record where
  fields := [.plain Job.nameFields, .plain Job.scheduleFields, .plain Job.enabledFields,
    .plain Job.runningFields, .plain Job.lastRunFields, .plain Job.nextRunFields,
    .plain Job.descriptionFields]
  apart := by decide

def Run.record : Record where
  fields := [.plain Run.jobFields, .plain Run.startedAtFields, .plain Run.durationFields,
    .plain Run.successFields, .plain Run.errorFields]
  apart := by decide

namespace Snapshot

def jobsListing : Listing where
  names := jobsFields
  item := Job.record
  others := [.plain schedulerFields]
  apart := by decide

def historyListing : Listing where
  names := historyFields
  item := Run.record
  others := []
  apart := by decide

/-- The spellings of the jobs and of the past runs. -/
def Respells (method : String) (x y : Json) : Prop :=
  if method = jobsMethod then jobsListing.Respells x y
  else if method = historyMethod then historyListing.Respells x y
  else x = y

end Snapshot

end Cron

namespace Stats

def Usage.record : Record where
  fields := [.plain Usage.sessionsFields, .plain Usage.requestsFields, .plain Usage.tokensInFields,
    .plain Usage.tokensOutFields, .plain Usage.updatedAtFields]
  apart := by decide

def Store.record : Record where
  fields := [.plain Store.nameFields, .plain Store.bytesFields, .plain Store.entriesFields]
  apart := by decide

namespace Snapshot

def modulesListing : Listing where
  names := modulesFields
  item := Store.record
  others := []
  apart := by decide

/-- The spellings of the figures on usage and of the modules of the memory store. -/
def Respells (method : String) (x y : Json) : Prop :=
  if method = summaryMethod then Usage.record.Respells x y
  else if method = memoryMethod then modulesListing.Respells x y
  else x = y

end Snapshot

end Stats

namespace Slop

def LoopStatus.record : Record where
  fields := [.plain LoopStatus.runningFields, .plain LoopStatus.scanningFields,
    .plain LoopStatus.lastScanFields, .plain LoopStatus.nextScanFields,
    .plain LoopStatus.intervalFields, .plain LoopStatus.filesScannedFields]
  apart := by decide

def Statistics.record : Record where
  fields := [.plain Statistics.totalFields, .plain Statistics.filesAffectedFields,
    .plain Statistics.bySeverityFields]
  apart := by decide

def Finding.record : Record where
  fields := [.plain Finding.idFields, .plain Finding.fileFields, .plain Finding.lineFields,
    .plain Finding.ruleFields, .plain Finding.severityFields, .plain Finding.messageFields]
  apart := by decide

namespace Snapshot

def findingsListing : Listing where
  names := findingsFields
  item := Finding.record
  others := []
  apart := by decide

/-- The spellings of the state of the loop, of the findings and of the figures over them. -/
def Respells (method : String) (x y : Json) : Prop :=
  if method = statusMethod then LoopStatus.record.Respells x y
  else if method = findingsMethod then findingsListing.Respells x y
  else if method = statisticsMethod then Statistics.record.Respells x y
  else x = y

end Snapshot

end Slop

namespace Tools

def Tool.record : Record where
  fields := [.plain Tool.nameFields, .plain Tool.descriptionFields, .plain Tool.enabledFields]
  apart := by decide

def Kit.record : Record where
  fields := [.plain Kit.nameFields, .plain Kit.descriptionFields,
    .list Kit.toolsFields Tool.record.Respells]
  apart := by decide

namespace Snapshot

def modulesListing : Listing where
  names := modulesFields
  item := Kit.record
  others := []
  apart := by decide

/-- The configuration; what is in it is no field. -/
def configRecord : Record where
  fields := [.nested settingsFields]
  apart := by decide

/-- The spellings of the modules and of the configuration. -/
def Respells (method : String) (x y : Json) : Prop :=
  if method = modulesMethod then modulesListing.Respells x y
  else if method = configMethod then configRecord.Respells x y
  else x = y

end Snapshot

end Tools

namespace Context

def Item.record : Record where
  fields := [.plain Item.idFields, .plain Item.kindFields, .plain Item.labelFields,
    .plain Item.tokensFields, .plain Item.pinnedFields]
  apart := by decide

namespace Snapshot

def itemsListing : Listing where
  names := itemsFields
  item := Item.record
  others := [.plain modelFields, .plain usedFields, .plain limitFields]
  apart := by decide

/-- The spellings of the context. -/
def Respells (method : String) (x y : Json) : Prop :=
  if method = contextMethod then itemsListing.Respells x y else x = y

end Snapshot

end Context

end Dashboard
