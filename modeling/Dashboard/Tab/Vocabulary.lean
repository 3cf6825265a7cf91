import Dashboard.Tab
/-!
# The commands that tabs know

* `Daemon.commands` — the commands that the tab on a daemon knows.
* `Daemon.eq_of_mem_commands` — no command is known to the tabs on two daemons.
* `Tab.Knows` — whether a tab knows a command.
* `Tab.react_of_not_knows` — a command that the tab does not know does nothing.
-/

namespace Dashboard

/-- The commands that the tab on a daemon knows. -/
def Daemon.commands : Daemon → List String
  | .cron => Cron.Verb.all.map Cron.Verb.word
  | .stats => Stats.Verb.all.map Stats.Verb.word
  | .slop => Slop.Verb.all.map Slop.Verb.word
  | .tools => Tools.Verb.all.map Tools.Verb.word
  | .context => Context.Verb.all.map Context.Verb.word

/-- No command is known to the tabs on two daemons. -/
theorem Daemon.eq_of_mem_commands {d d' : Daemon} {name : String} (h : name ∈ d.commands)
    (h' : name ∈ d'.commands) : d = d' := by
  have hall : ∀ d ∈ all, ∀ d' ∈ all, ∀ name ∈ d.commands, name ∈ d'.commands → d = d' := by
    decide
  exact hall d d.mem_all d' d'.mem_all name h h'

namespace Tab

variable {t : Tab} {c : Command}

/-- Whether the tab knows a command. -/
def Knows (t : Tab) (c : Command) : Prop := c.name ∈ t.daemon.commands

instance (t : Tab) (c : Command) : Decidable (t.Knows c) :=
  inferInstanceAs (Decidable (c.name ∈ t.daemon.commands))

/-- Commands are known to the tab on one daemon only. -/
theorem Knows.daemon_eq {t' : Tab} (h : t.Knows c) (h' : t'.Knows c) : t.daemon = t'.daemon :=
  Daemon.eq_of_mem_commands h h'

theorem find?_word_eq_none {α : Type} {verbs : List α} {word : α → String} {name : String}
    (h : name ∉ verbs.map word) : verbs.find? (word · == name) = none :=
  List.find?_eq_none.mpr fun v hv heq => h (List.mem_map.mpr ⟨v, hv, by simpa using heq⟩)

/-- A command that the tab does not know does nothing. -/
theorem react_of_not_knows (h : ¬ t.Knows c) : t.react c = (t, .ignored none) := by
  cases t with
  | cron s =>
    have hverb : Cron.Verb.ofWord? c.name = none := find?_word_eq_none h
    simp [react, Cron.State.react, hverb]
  | stats s =>
    have hverb : Stats.Verb.ofWord? c.name = none := find?_word_eq_none h
    simp [react, Stats.State.react, hverb]
  | slop s =>
    have hverb : Slop.Verb.ofWord? c.name = none := find?_word_eq_none h
    simp [react, Slop.State.react, hverb]
  | tools s =>
    have hverb : Tools.Verb.ofWord? c.name = none := find?_word_eq_none h
    simp [react, Tools.State.react, hverb]
  | context s =>
    have hverb : Context.Verb.ofWord? c.name = none := find?_word_eq_none h
    simp [react, Context.State.react, hverb]

/-- A tab that handles a command knows it. -/
theorem knows_of_isHandled (h : (t.react c).2.isHandled = true) : t.Knows c := by
  refine Decidable.byContradiction fun hk => ?_
  rw [react_of_not_knows hk] at h
  cases h

/-- To whom a command is addressed is no matter to the tab that gets it. -/
@[simp] theorem react_with_tab (t : Tab) (c : Command) (tab : Option String) :
    t.react { c with tab } = t.react c := by
  cases t <;> rfl

end Tab

end Dashboard
