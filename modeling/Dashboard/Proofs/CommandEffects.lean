import Dashboard.Proofs.Addressing
import Dashboard.Proofs.ScriptAgreement
import Dashboard.Tab.Choice
/-!
# What a command does to a tab by itself

A tab that gets a command decides what is to be asked of the daemon, but it asks nothing itself. What
was loaded stays as it is until a load ends, so no mutation shows before the daemon tells of it.

* `Tab.Takes` — what a tab may become at a command: itself, itself with its failures forgotten, or
  itself with another choice; `Tab.takes_react` — that there is nothing else.
* `Tab.Reaction.calls`, `Tab.calls_handle` — the calls that are made at a command are those that the
  tab asked for.
* `commands_leave_loads_alone` — both together, with what is kept.
* `module_choice_drops_tool` — one command takes back a choice that another one makes.
-/

namespace Dashboard

namespace Tab

/-! ### What changes -/

/-- What a tab may become at a command. -/
inductive Takes (t : Tab) (c : Command) : Tab → Prop where
  /-- Nothing changes. -/
  | rest : Takes t c t
  /-- The user tries again, and the next failure counts as the first. -/
  | retry (hc : c.name = t.daemon.retryWord) : Takes t c t.resetAttempts
  /-- The user chooses something. Another module has other tools, so with it none is chosen. -/
  | choose {t' : Tab} (f : Choice) (hc : c.name = f.word) (hs : t'.status = t.status)
      (ho : ∀ g, g ≠ f → t'.chosen g = t.chosen g ∨
        f = .toolModule ∧ g = .tool ∧ t'.chosen g = some (.text none)) : Takes t c t'

/-- A verb that a name stands for has that name. -/
theorem word_of_find? {α : Type} {verbs : List α} {word : α → String} {name : String} {v : α}
    (h : verbs.find? (word · == name) = some v) : name = word v := by
  have hword := List.find?_some h
  exact (beq_iff_eq.mp hword).symm

end Tab

/-- What a command makes of the tab of scheduled jobs. -/
theorem Cron.State.takes_react (s : State) (c : Command) :
    (Tab.cron s).Takes c (.cron (s.react c).1) := by
  unfold react
  cases hv : Verb.ofWord? c.name with
  | none => exact .rest
  | some v =>
    have hc : c.name = v.word := Tab.word_of_find? hv
    cases v with
    | refresh | toggleScheduler | toggleJob | runNow => exact .rest
    | retry => exact .retry hc
    | setHistoryLimit =>
      cases c.count? "limit" with
      | none => exact .rest
      | some n =>
        refine .choose .historyLimit hc rfl fun g hg => .inl ?_
        cases g with
        | historyLimit => exact absurd rfl hg
        | _ => rfl

/-- What a command makes of the tab of usage. -/
theorem Stats.State.takes_react (s : State) (c : Command) :
    (Tab.stats s).Takes c (.stats (s.react c).1) := by
  unfold react
  cases hv : Verb.ofWord? c.name with
  | none => exact .rest
  | some v =>
    have hc : c.name = v.word := Tab.word_of_find? hv
    cases v with
    | refresh | clearModule => exact .rest
    | retry => exact .retry hc
    | selectModule =>
      refine .choose .usageModule hc rfl fun g hg => .inl ?_
      cases g with
      | usageModule => exact absurd rfl hg
      | _ => rfl

/-- What a command makes of the tab of findings. -/
theorem Slop.State.takes_react (s : State) (c : Command) :
    (Tab.slop s).Takes c (.slop (s.react c).1) := by
  unfold react
  cases hv : Verb.ofWord? c.name with
  | none => exact .rest
  | some v =>
    have hc : c.name = v.word := Tab.word_of_find? hv
    cases v with
    | refresh | scanNow | toggleLoop | dismiss => exact .rest
    | retry => exact .retry hc
    | search =>
      refine .choose .query hc rfl fun g hg => .inl ?_
      cases g with
      | query => exact absurd rfl hg
      | _ => rfl
    | filterSeverity =>
      refine .choose .severity hc rfl fun g hg => .inl ?_
      cases g with
      | severity => exact absurd rfl hg
      | _ => rfl

/-- What a command makes of the tab of tools. -/
theorem Tools.State.takes_react (s : State) (c : Command) :
    (Tab.tools s).Takes c (.tools (s.react c).1) := by
  unfold react
  cases hv : Verb.ofWord? c.name with
  | none => exact .rest
  | some v =>
    have hc : c.name = v.word := Tab.word_of_find? hv
    cases v with
    | refresh | toggleTool => exact .rest
    | retry => exact .retry hc
    -- Another module has other tools, so the tool that was chosen is let go.
    | selectModule =>
      refine .choose .toolModule hc rfl fun g hg => ?_
      cases g with
      | toolModule => exact absurd rfl hg
      | tool => exact .inr ⟨rfl, rfl, rfl⟩
      | _ => exact .inl rfl
    | selectTool =>
      refine .choose .tool hc rfl fun g hg => .inl ?_
      cases g with
      | tool => exact absurd rfl hg
      | _ => rfl

/-- What a command makes of the tab of the context. -/
theorem Context.State.takes_react (s : State) (c : Command) :
    (Tab.context s).Takes c (.context (s.react c).1) := by
  unfold react
  cases hv : Verb.ofWord? c.name with
  | none => exact .rest
  | some v =>
    have hc : c.name = v.word := Tab.word_of_find? hv
    cases v with
    | refresh | clear | pin => exact .rest
    | retry => exact .retry hc

namespace Tab

variable {t t' : Tab} {c : Command}

/-- What a tab becomes at a command, whatever the tab. -/
theorem takes_react (t : Tab) (c : Command) : t.Takes c (t.react c).1 := by
  cases t with
  | cron s => exact s.takes_react c
  | stats s => exact s.takes_react c
  | slop s => exact s.takes_react c
  | tools s => exact s.takes_react c
  | context s => exact s.takes_react c

/-- Failures are forgotten only where the user tries again. -/
theorem Takes.attempts (h : t.Takes c t') (ha : t'.status.attempts ≠ t.status.attempts) :
    c.name = t.daemon.retryWord ∧ t'.status.attempts = t.status.attempts.reset := by
  cases h with
  | rest => exact absurd rfl ha
  | retry hc => exact ⟨hc, t.attempts_resetAttempts⟩
  | choose f hc hs ho => exact absurd (congrArg Status.attempts hs) ha

/-- A choice is changed only where the user chooses, but for that of a tool. -/
theorem Takes.chosen (h : t.Takes c t') {g : Choice} (hg : t'.chosen g ≠ t.chosen g) :
    c.name = g.word ∨
      c.name = Choice.toolModule.word ∧ g = .tool ∧ t'.chosen g = some (.text none) := by
  cases h with
  | rest => exact absurd rfl hg
  | retry hc => exact absurd (t.chosen_resetAttempts g) hg
  | choose f hc hs ho =>
    by_cases hgf : g = f
    · exact .inl (hgf ▸ hc)
    · rcases ho g hgf with hsame | ⟨hf, hgt, hnone⟩
      · exact absurd hsame hg
      · exact .inr ⟨hf ▸ hc, hgt, hnone⟩

/-! ### What is asked -/

/-- The calls of the loads of a tab. -/
def loadCalls (t : Tab) : List Script.Call :=
  t.queries.map fun q => ⟨t.daemon, q.method, q.params⟩

/-- The calls that a tab asks for by its reaction. A mutation is followed by a load. -/
def Reaction.calls (t : Tab) : Reaction → List Script.Call
  | ignored _ | redraw => []
  | reload => t.loadCalls
  | change m => ⟨m.daemon, m.method, m.params⟩ :: t.loadCalls

/-- The calls of a load are made in the order of its queries. -/
theorem calls_mapM (d : Daemon) (queries : List Query) (r : Rehearsal) :
    ((queries.mapM fun q => do
        return (⟨q.method, ← World.call d q.method q.params⟩ : Outcome) :
          StateM Rehearsal (List Outcome)).run r).2.script.calls =
      r.script.calls ++ queries.map fun q => ⟨d, q.method, q.params⟩ := by
  induction queries generalizing r with
  | nil => exact (List.append_nil _).symm
  | cons q queries ih =>
    rw [List.mapM_cons]
    -- The first call is recorded, and then the others are.
    have hfirst : (r.script.answer d q.method q.params).2.calls =
        r.script.calls ++ [⟨d, q.method, q.params⟩] :=
      Script.calls_answer
    have hrest := ih { r with script := (r.script.answer d q.method q.params).2 }
    rw [hfirst, List.append_assoc] at hrest
    exact hrest

/-- The calls of a load are recorded in their order. -/
theorem calls_fetch (d : Daemon) (queries : List Query) (r : Rehearsal) :
    ((fetch d queries : StateM Rehearsal Report).run r).2.script.calls =
      r.script.calls ++ queries.map fun q => ⟨d, q.method, q.params⟩ :=
  calls_mapM d queries r

/-- Notices ask nothing. -/
theorem script_noteAll (notices : List Notice) (r : Rehearsal) :
    ((World.noteAll notices : StateM Rehearsal Unit).run r).2.script = r.script := by
  rw [Rehearsal.run_noteAll]

/-- The call of a mutation is recorded. -/
theorem calls_perform (m : Mutation) (r : Rehearsal) :
    ((m.perform : StateM Rehearsal Reply).run r).2.script.calls =
      r.script.calls ++ [⟨m.daemon, m.method, m.params⟩] := by
  have hcall : (r.script.answer m.daemon m.method m.params).2.calls =
      r.script.calls ++ [⟨m.daemon, m.method, m.params⟩] :=
    Script.calls_answer
  rw [← hcall]
  exact congrArg Script.calls (script_noteAll _ _)

/-- A load that is carried out at once is applied, and the tab asks to be drawn again. -/
theorem complete_begin (t : Tab) (report : Report) :
    (t.begin.2.complete t.begin.1 report).1 = true := by
  rw [t.begin_fst, ← t.issued_begin]
  exact t.begin.2.complete_current report

/-- A load makes its calls and asks once to be drawn again. -/
theorem calls_load (t : Tab) (r : Rehearsal) :
    ((t.load : StateM Rehearsal Driven).run r).2.script.calls = r.script.calls ++ t.loadCalls ∧
      ((t.load : StateM Rehearsal Driven).run r).1.signals = 1 := by
  simp only [load, complete_begin, daemon_begin, queries_begin, if_true]
  refine ⟨?_, rfl⟩
  rw [loadCalls, ← calls_fetch]
  exact congrArg Script.calls (script_noteAll _ _)

/-- How often a tab asks to be drawn again where its reaction is carried out. -/
def Reaction.signals : Reaction → Nat
  | ignored _ => 0
  | redraw | reload | change _ => 1

/-- At a command the calls are made that the tab asks for and no others, and the tab is drawn again
    once if it handles the command. -/
theorem calls_handle (t : Tab) (c : Command) (r : Rehearsal) :
    ((t.handle c : StateM Rehearsal Driven).run r).2.script.calls =
        r.script.calls ++ (t.react c).2.calls (t.react c).1 ∧
      ((t.handle c : StateM Rehearsal Driven).run r).1.signals = (t.react c).2.signals := by
  unfold handle
  generalize t.react c = answer
  obtain ⟨t', reaction⟩ := answer
  cases reaction with
  | ignored refusal =>
    refine ⟨?_, rfl⟩
    rw [Reaction.calls, List.append_nil]
    exact congrArg Script.calls (script_noteAll _ r)
  | redraw => exact ⟨(List.append_nil _).symm, rfl⟩
  | reload => exact calls_load t' r
  | change m =>
    -- The mutation is called first, and the load follows it.
    have hasked := calls_perform m r
    obtain ⟨hcalls, hsignals⟩ := calls_load t' ((m.perform : StateM Rehearsal Reply).run r).2
    refine ⟨?_, hsignals⟩
    rw [hasked, List.append_assoc, List.singleton_append] at hcalls
    exact hcalls

end Tab

/-- Of what a tab has loaded, its snapshot, its error, its phase and its tickets, a command changes
    nothing. If it is refused, or asks for a mutation, the tab stays as it was in every respect. The
    count of failures changes only where the user tries again, to zero, and a choice only by the
    command that makes it; but choosing a module also takes back the choice of a tool. The tab makes
    no call and asks for no drawing itself: the calls made at a command are those that its reaction
    asks for, and a panel takes down a request only where the reaction is to be drawn again. -/
theorem commands_leave_loads_alone (t : Tab) (c : Command) :
    t.Alike (t.react c).1 ∧
    ((∃ refusal, (t.react c).2 = .ignored refusal) ∨ (∃ m, (t.react c).2 = .change m) →
      (t.react c).1 = t) ∧
    ((t.react c).1.status.attempts ≠ t.status.attempts →
      c.name = t.daemon.retryWord ∧
        (t.react c).1.status.attempts = { t.status.attempts with count := 0 }) ∧
    (∀ f, (t.react c).1.chosen f ≠ t.chosen f →
      c.name = f.word ∨
        c.name = Tab.Choice.toolModule.word ∧ f = .tool ∧
          (t.react c).1.chosen f = some (.text none)) ∧
    (∀ r : Rehearsal,
      let driven := (t.handle c : StateM Rehearsal Tab.Driven).run r
      driven.2.script.calls = r.script.calls ++ (t.react c).2.calls (t.react c).1 ∧
        driven.1.signals = (t.react c).2.signals) ∧
    ∀ (p : Panel) (i : Nat), p.tabs[i]? = some t →
      (p.address i c).panel.signals = p.signals ++ t.requests c := by
  -- What may come of a command: the tab stays as it is, or its loads do.
  have hreacts := t.reacts c
  refine ⟨?_, ?_, (t.takes_react c).attempts, fun f => (t.takes_react c).chosen, t.calls_handle c, ?_⟩
  · generalize t.react c = answer at hreacts ⊢
    cases hreacts with
    | asks => exact .refl t
    | redraw ha | reload ha => exact ha
  · generalize t.react c = answer at hreacts ⊢
    cases hreacts with
    | asks => exact fun _ => rfl
    | redraw | reload =>
      rintro (⟨_, h⟩ | ⟨_, h⟩) <;> cases h
  · intro p i hi
    rw [Panel.address_eq hi]

/-- Whoever has chosen a tool and then chooses a module has chosen a tool no more. -/
theorem module_choice_drops_tool :
    let select : Command := { name := "selectTool", arguments := [("tool", .string "status")] }
    let leave : Command := { name := "selectToolModule", arguments := [("module", .string "web")] }
    let t := ((Tab.new .tools 3 20).react select).1
    t.chosen .tool = some (.text (some "status")) ∧ leave.name ≠ Tab.Choice.tool.word ∧
      (t.react leave).1.chosen .tool = some (.text none) := by
  decide +kernel

end Dashboard
