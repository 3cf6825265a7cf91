import Dashboard.Proofs.FieldSpelling
import Dashboard.Tab.Spelling
/-!
# Snapshots do not depend on the spelling

What is kept of a load is the same in whatever spelling the daemon sent it.

* `Tab.Report.Respells.data?` — what the calls of a method brought corresponds in two spellings.
* `Cron.Job.ofJson?_eq` and its likes — each record is read alike in every spelling.
* `snapshots_ignore_spelling` — so is what is kept of a load.
-/

namespace Dashboard

open Json

/-! ### Reports -/

namespace Tab.Report

variable {spelling : String → Json → Json → Prop} {same : Json → Json → Prop} {r r' : Report}
  {method : String}

/-- What the calls of a method brought corresponds in two spellings of a report. -/
theorem Respells.data? (h : r.Respells spelling r') (hsame : spelling method = same)
    (hrefl : ∀ x, same x x) : Option.Rel same (r.data? method) (r'.data? method) := by
  obtain ⟨outcomes⟩ := r
  obtain ⟨outcomes'⟩ := r'
  replace h : List.Forall₂ _ outcomes outcomes' := h
  unfold Report.data?
  dsimp only
  -- Both reports are searched from the front, and outcomes at one place answer alike.
  induction h with
  | nil => exact .none
  | @cons o o' os os' hfirst _ ih =>
    obtain ⟨hmethod, hsuccess, hdata⟩ := hfirst
    have hanswers : o'.answers method = o.answers method := by
      rw [Outcome.answers, hmethod, hsuccess, Outcome.answers]
    rw [List.find?_cons, List.find?_cons, hanswers]
    cases hmine : o.answers method with
    | false => exact ih
    | true =>
      have heq : o.method = method := eq_of_beq (Bool.and_eq_true_iff.mp hmine).1
      rw [heq, hsame] at hdata
      exact .some (rel_getD (hrefl .null) hdata)

end Tab.Report

/-- Parts that are read alike in every spelling are the same if they come. -/
theorem map_eq_of_rel {α : Type} {same : Json → Json → Prop} {o p : Option Json} {read : Json → α}
    (h : Option.Rel same o p) (hread : ∀ {x y}, same x y → read y = read x) :
    p.map read = o.map read := by
  cases h with
  | none => rfl
  | some hxy => exact congrArg some (hread hxy)

variable {r r' : Tab.Report} {x y : Json}

/-! ### Scheduled jobs -/

namespace Cron

/-- A job reads as one job in every spelling. -/
theorem Job.ofJson?_eq (h : Job.record.Respells x y) : Job.ofJson? y = Job.ofJson? x := by
  have hf := h.fields
  simp only [Job.record, Field.plain, List.forall_mem_cons, rel_eq_iff] at hf
  simp only [Job.ofJson?, wordOf?, textOr, textOf?, truthOr, truthOf?, instantOf?, hf]

/-- A run reads as one run in every spelling. -/
theorem Run.ofJson_eq (h : Run.record.Respells x y) : Run.ofJson y = Run.ofJson x := by
  have hf := h.fields
  simp only [Run.record, Field.plain, List.forall_mem_cons, rel_eq_iff] at hf
  simp only [Run.ofJson, wordOf?, textOr, textOf?, truthOr, truthOf?, countOf?, instantOf?, hf]

namespace Snapshot

/-- The jobs read as the same jobs, in the same order. -/
theorem jobsOf_eq (h : jobsListing.Respells x y) : jobsOf y = jobsOf x :=
  filterMap_eq_of_forall₂ h.listing Job.ofJson?_eq

/-- The history reads as the same runs, in the same order. -/
theorem historyOf_eq (h : historyListing.Respells x y) : historyOf y = historyOf x :=
  map_eq_of_forall₂ h.listing Run.ofJson_eq

/-- Whether the scheduler is on does not depend on the spelling. -/
theorem scheduler_eq (h : jobsListing.Respells x y) :
    y.truthOr schedulerFields true = x.truthOr schedulerFields true := by
  have hf := h.others
  simp only [jobsListing, Field.plain, List.forall_mem_cons, rel_eq_iff] at hf
  simp only [truthOr, truthOf?, hf]

/-- The snapshot of scheduled jobs does not depend on the spelling of the payloads. -/
theorem ofReport_eq (h : r.Respells Respells r') : ofReport r' = ofReport r := by
  have hjobs : Option.Rel jobsListing.Respells (r.data? jobsMethod) (r'.data? jobsMethod) :=
    h.data? rfl Listing.Respells.refl
  have hhistory :
      Option.Rel historyListing.Respells (r.data? historyMethod) (r'.data? historyMethod) :=
    h.data? rfl Listing.Respells.refl
  unfold ofReport
  rw [map_eq_of_rel hjobs scheduler_eq, map_eq_of_rel hjobs jobsOf_eq,
    map_eq_of_rel hhistory historyOf_eq]

end Snapshot

end Cron

/-! ### Usage -/

namespace Stats

/-- The totals read as the same totals in every spelling. -/
theorem Usage.ofJson_eq (h : Usage.record.Respells x y) : Usage.ofJson y = Usage.ofJson x := by
  have hf := h.fields
  simp only [Usage.record, Field.plain, List.forall_mem_cons, rel_eq_iff] at hf
  simp only [Usage.ofJson, countOr, countOf?, instantOf?, hf]

/-- A store reads as one store in every spelling. -/
theorem Store.ofJson?_eq (h : Store.record.Respells x y) : Store.ofJson? y = Store.ofJson? x := by
  have hf := h.fields
  simp only [Store.record, Field.plain, List.forall_mem_cons, rel_eq_iff] at hf
  simp only [Store.ofJson?, wordOf?, textOf?, countOr, countOf?, hf]

namespace Snapshot

/-- The modules read as the same modules; they are ranked after they were read. -/
theorem modulesOf_eq (h : modulesListing.Respells x y) : modulesOf y = modulesOf x := by
  have hstores := filterMap_eq_of_forall₂ h.listing Store.ofJson?_eq
  exact congrArg (List.mergeSort · fun a b => (a.order b).isLE) hstores

/-- The snapshot of usage does not depend on the spelling of the payloads. -/
theorem ofReport_eq (h : r.Respells Respells r') : ofReport r' = ofReport r := by
  have husage : Option.Rel Usage.record.Respells (r.data? summaryMethod) (r'.data? summaryMethod) :=
    h.data? rfl .same
  have hmodules :
      Option.Rel modulesListing.Respells (r.data? memoryMethod) (r'.data? memoryMethod) :=
    h.data? rfl Listing.Respells.refl
  unfold ofReport
  rw [map_eq_of_rel husage Usage.ofJson_eq, map_eq_of_rel hmodules modulesOf_eq]

end Snapshot

end Stats

/-! ### Findings -/

namespace Slop

/-- The status of the loop reads as one status in every spelling. -/
theorem LoopStatus.ofJson_eq (h : LoopStatus.record.Respells x y) :
    LoopStatus.ofJson y = LoopStatus.ofJson x := by
  have hf := h.fields
  simp only [LoopStatus.record, Field.plain, List.forall_mem_cons, rel_eq_iff] at hf
  simp only [LoopStatus.ofJson, truthOr, truthOf?, countOf?, instantOf?, hf]

/-- The statistics read as the same statistics in every spelling. -/
theorem Statistics.ofJson_eq (h : Statistics.record.Respells x y) :
    Statistics.ofJson y = Statistics.ofJson x := by
  have hf := h.fields
  simp only [Statistics.record, Field.plain, List.forall_mem_cons, rel_eq_iff] at hf
  simp only [Statistics.ofJson, countOr, countOf?, objectOf?, hf]

/-- A finding reads as one finding in every spelling. -/
theorem Finding.ofJson_eq (h : Finding.record.Respells x y) :
    Finding.ofJson y = Finding.ofJson x := by
  have hf := h.fields
  simp only [Finding.record, Field.plain, List.forall_mem_cons, rel_eq_iff] at hf
  simp only [Finding.ofJson, wordOf?, textOr, textOf?, countOf?, hf]

namespace Snapshot

/-- The findings read as the same findings; they are sorted after they were read. -/
theorem findingsOf_eq (h : findingsListing.Respells x y) : findingsOf y = findingsOf x := by
  have hfindings := map_eq_of_forall₂ h.listing Finding.ofJson_eq
  exact congrArg (List.mergeSort · fun a b => (a.order b).isLE) hfindings

/-- The snapshot of findings does not depend on the spelling of the payloads. -/
theorem ofReport_eq (h : r.Respells Respells r') : ofReport r' = ofReport r := by
  have hstatus :
      Option.Rel LoopStatus.record.Respells (r.data? statusMethod) (r'.data? statusMethod) :=
    h.data? rfl .same
  have hfindings :
      Option.Rel findingsListing.Respells (r.data? findingsMethod) (r'.data? findingsMethod) :=
    h.data? rfl Listing.Respells.refl
  have hstatistics :
      Option.Rel Statistics.record.Respells (r.data? statisticsMethod)
        (r'.data? statisticsMethod) :=
    h.data? rfl .same
  unfold ofReport Tab.Report.contribution?
  rw [map_eq_of_rel (rel_filter Record.Respells.isNull_eq hstatus) LoopStatus.ofJson_eq,
    map_eq_of_rel (rel_filter Record.Respells.isNull_eq hstatistics) Statistics.ofJson_eq,
    map_eq_of_rel (rel_filter Listing.Respells.isNull_eq hfindings) findingsOf_eq]

end Snapshot

end Slop

/-! ### Tools -/

namespace Tools

/-- A tool reads as one tool in every spelling. -/
theorem Tool.ofJson?_eq (h : Tool.record.Respells x y) : Tool.ofJson? y = Tool.ofJson? x := by
  have hf := h.fields
  simp only [Tool.record, Field.plain, List.forall_mem_cons, rel_eq_iff] at hf
  simp only [Tool.ofJson?, wordOf?, textOr, textOf?, truthOr, truthOf?, hf]

/-- The tools of a module read as the same tools in every spelling. -/
theorem Kit.ofJson?_eq (h : Kit.record.Respells x y) : Kit.ofJson? y = Kit.ofJson? x := by
  have hf := h.fields
  simp only [Kit.record, Field.plain, Field.list, List.forall_mem_cons, rel_eq_iff] at hf
  obtain ⟨hname, hdescription, htools, -⟩ := hf
  have hitems := filterMap_eq_of_forall₂ (listOf_rel .same htools) Tool.ofJson?_eq
  simp only [Kit.ofJson?, wordOf?, textOr, textOf?, hname, hdescription, hitems]

namespace Snapshot

/-- The modules read as the same modules, in the same order. -/
theorem modulesOf_eq (h : modulesListing.Respells x y) : modulesOf y = modulesOf x :=
  filterMap_eq_of_forall₂ h.listing Kit.ofJson?_eq

/-- A configuration that comes bare has no field, so nothing of it is spelled otherwise. -/
theorem eq_of_bare (h : configRecord.Respells x y) (hbare : x.objectOf? settingsFields = none) :
    y = x := by
  cases h with
  | same => rfl
  | @object ms rename hsorted hrename =>
    have hkept : ∀ m ∈ ms, rename m = m := by
      intro m hm
      generalize hn : rename m = n
      have hmember := hn ▸ hrename m hm
      cases hmember with
      | other => rfl
      | kept hf _ hsame =>
        obtain rfl := List.mem_singleton.mp hf
        exact congrArg (Prod.mk _) (Eq.symm hsame)
      | @moved f name newName v w hf hname hnew hmoves hsame hsole =>
        obtain rfl := List.mem_singleton.mp hf
        -- The object that moved is what the field is read from, so it did not come bare.
        have hsole' : ∀ other ∈ settingsFields, ∀ w, ms.find? other = some w → w = v := by
          intro other hother w hw
          have hmem := Members.mem_of_find? hw
          exact congrArg Prod.snd (Record.eq_of_mem hsorted hmem hm (hsole _ hmem hother))
        have hnodup := Members.nodup_of_sorted hsorted
        have hfield := Members.field?_of_sole hsole' ⟨name, hname, Members.find?_of_mem hnodup hm⟩
        cases v with
        | object vs =>
          rw [objectOf?, field?, members?, Option.bind_some, hfield] at hbare
          cases hbare
        | _ => cases hmoves
    rw [List.map_congr_left hkept, List.map_id', hsorted]

/-- The settings read as the same settings in every spelling. -/
theorem settingsOf_eq (h : configRecord.Respells x y) : settingsOf y = settingsOf x := by
  have hf := h.fields
  simp only [configRecord, Field.nested, Field.plain, List.forall_mem_cons, rel_eq_iff] at hf
  have hobject : y.objectOf? settingsFields = x.objectOf? settingsFields := by
    rw [objectOf?, hf.1, objectOf?]
  unfold settingsOf
  rw [hobject]
  cases hbare : x.objectOf? settingsFields with
  | some ms => rfl
  | none => rw [eq_of_bare h hbare]

/-- The snapshot of tools does not depend on the spelling of the payloads. -/
theorem ofReport_eq (h : r.Respells Respells r') : ofReport r' = ofReport r := by
  have hmodules :
      Option.Rel modulesListing.Respells (r.data? modulesMethod) (r'.data? modulesMethod) :=
    h.data? rfl Listing.Respells.refl
  have hconfig : Option.Rel configRecord.Respells (r.data? configMethod) (r'.data? configMethod) :=
    h.data? rfl .same
  unfold ofReport
  rw [map_eq_of_rel hmodules modulesOf_eq, map_eq_of_rel hconfig settingsOf_eq]

end Snapshot

end Tools

/-! ### The context -/

namespace Context

/-- A part of the context reads as one part in every spelling. -/
theorem Item.ofJson?_eq (h : Item.record.Respells x y) : Item.ofJson? y = Item.ofJson? x := by
  have hf := h.fields
  simp only [Item.record, Field.plain, List.forall_mem_cons, rel_eq_iff] at hf
  simp only [Item.ofJson?, wordOf?, textOr, textOf?, truthOr, truthOf?, countOr, countOf?, hf]

namespace Snapshot

/-- The parts of the context read as the same parts, in the same order. -/
theorem itemsOf_eq (h : itemsListing.Respells x y) : itemsOf y = itemsOf x := by
  have hitems := filterMap_eq_of_forall₂ h.listing Item.ofJson?_eq
  exact congrArg (List.mergeSort · fun a b => (a.order b).isLE) hitems

/-- The payload as a whole, with its counts and its parts. -/
theorem ofJson_eq (h : itemsListing.Respells x y) : ofJson y = ofJson x := by
  have hf := h.others
  simp only [itemsListing, Field.plain, List.forall_mem_cons, rel_eq_iff] at hf
  simp only [ofJson, wordOf?, textOf?, countOf?, hf, itemsOf_eq h]

/-- The snapshot of the context does not depend on the spelling of the payloads. -/
theorem ofReport_eq (h : r.Respells Respells r') : ofReport r' = ofReport r := by
  have hitems : Option.Rel itemsListing.Respells (r.data? contextMethod) (r'.data? contextMethod) :=
    h.data? rfl Listing.Respells.refl
  rw [ofReport, map_eq_of_rel hitems ofJson_eq]
  rfl

end Snapshot

end Context

/-! ### All tabs -/

/-- What is kept of a load is the same in whatever spelling the daemon sent it: fields of the
    payloads, and of the records in their lists, may come under other names of theirs, and a list
    that is all of its payload may come bare. -/
theorem snapshots_ignore_spelling {r r' : Tab.Report} :
    (r.Respells Cron.Snapshot.Respells r' →
        Cron.Snapshot.ofReport r' = Cron.Snapshot.ofReport r) ∧
      (r.Respells Stats.Snapshot.Respells r' →
        Stats.Snapshot.ofReport r' = Stats.Snapshot.ofReport r) ∧
      (r.Respells Slop.Snapshot.Respells r' →
        Slop.Snapshot.ofReport r' = Slop.Snapshot.ofReport r) ∧
      (r.Respells Tools.Snapshot.Respells r' →
        Tools.Snapshot.ofReport r' = Tools.Snapshot.ofReport r) ∧
      (r.Respells Context.Snapshot.Respells r' →
        Context.Snapshot.ofReport r' = Context.Snapshot.ofReport r) :=
  ⟨Cron.Snapshot.ofReport_eq, Stats.Snapshot.ofReport_eq, Slop.Snapshot.ofReport_eq,
    Tools.Snapshot.ofReport_eq, Context.Snapshot.ofReport_eq⟩

/-- The jobs with other names for the switch of the scheduler and the name of a job, and the runs
    as a bare list. -/
theorem snapshots_ignore_spelling_jobs :
    let jobs : Json := .object
      [("enabled", .bool false), ("jobs", .array [.object [("id", .string "backup")]])]
    let jobs' : Json := .object
      [("jobs", .array [.object [("name", .string "backup")]]), ("schedulerEnabled", .bool false)]
    let runs : List Json := [.object [("job", .string "backup")]]
    let r : Tab.Report :=
      ⟨[⟨"getJobs", .ok jobs⟩, ⟨"getHistory", .ok (.object [("runs", .array runs)])⟩]⟩
    let r' : Tab.Report := ⟨[⟨"getJobs", .ok jobs'⟩, ⟨"getHistory", .ok (.array runs)⟩]⟩
    r.Respells Cron.Snapshot.Respells r' ∧
      Cron.Snapshot.ofReport r' = Cron.Snapshot.ofReport r := by
  intro jobs jobs' runs r r'
  have hjob : Cron.Job.record.Respells (.object [("id", .string "backup")])
      (.object [("name", .string "backup")]) := by
    refine .object (fun m => ("name", m.2)) rfl (List.forall_mem_singleton.mpr ?_)
    exact .moved (f := .plain Cron.Job.nameFields) List.mem_cons_self (by decide) (by decide)
      trivial rfl (by decide)
  have hjobs : Cron.Snapshot.jobsListing.Respells jobs jobs' := by
    refine .record (.object (fun m =>
      if m.1 = "enabled" then ("schedulerEnabled", m.2)
      else ("jobs", .array [.object [("name", .string "backup")]])) rfl
      (List.forall_mem_cons.mpr ⟨?_, List.forall_mem_singleton.mpr ?_⟩))
    · exact .moved (f := .plain Cron.Snapshot.schedulerFields) (.tail _ List.mem_cons_self)
        (by decide) (by decide) trivial rfl (by decide)
    · exact .kept List.mem_cons_self (by decide) (.items (.cons hjob .nil))
  have hruns : Cron.Snapshot.historyListing.Respells (.object [("runs", .array runs)])
      (.array runs) := .unwrapped (by decide) (.cons (.same _) .nil)
  have hr : r.Respells Cron.Snapshot.Respells r' :=
    .cons ⟨rfl, rfl, .some hjobs⟩ (.cons ⟨rfl, rfl, .some hruns⟩ .nil)
  exact ⟨hr, snapshots_ignore_spelling.1 hr⟩

end Dashboard
