import CecBench.Proofs.Adapter.Twins
import CecBench.Proofs.Text.ShellWords

/-!
# The command of an adapter

An adapter on this machine starts its program with a list of words.  On another machine a shell
starts it, with a line.  The line denotes the list: a shell that reads the line takes it for these
words and nothing else, whatever the settings are (`commandLine_denotes`).

`Asks P` tells what kind of calls a computation makes.  By it, a line that is run on the other
machine is the command line.
-/

namespace CecBench

open Timed (Keeps Steady behind bind_eq_ok)
open Rig

variable {α : Type} {t t' : Timeline Rig Happening}

/-! ## Kinds of calls -/

namespace Rig

/-- Calls were only added, all of them of this kind. -/
def Asks (P : Call → Prop) (t t' : Timeline Rig Happening) : Prop :=
  ∃ made, Makes t made t' ∧ ∀ c ∈ made, P c

variable {P : Call → Prop}

theorem Asks.nothing (h : t'.state.surroundings.calls = t.state.surroundings.calls) :
    Asks P t t' := ⟨[], .none h, List.forall_mem_nil _⟩

instance : Steady (Asks P) where
  elapses _ h := .nothing (by rw [h.state, replay_surroundings])
  trans := by
    rintro _ _ _ ⟨made, hmade, hkind⟩ ⟨more, hmore, hkind'⟩
    exact ⟨made ++ more, hmade.trans hmore, List.forall_mem_append.mpr ⟨hkind, hkind'⟩⟩

theorem Asks.of_mem {c : Call} (h : Asks P t t') (hc : c ∈ callsSince t t') : P c := by
  obtain ⟨made, hmade, hkind⟩ := h
  rw [hmade.callsSince_eq] at hc
  exact hkind c hc

theorem note_asks {c : Call} (h : P c) : (note c).Keeps (Asks P) :=
  Timed.keeps_update fun _ => ⟨[c], rfl, by simpa using h⟩

theorem update_asks {f : Rig → Rig}
    (h : ∀ r, (f r).surroundings.calls = r.surroundings.calls) :
    (Timed.update f : Act Unit).Keeps (Asks P) :=
  Timed.keeps_update fun _ => .nothing (h _)

theorem countStart_asks : countStart.Keeps (Asks P) := by
  refine Timed.keeps_state.bind fun _ => Keeps.bind ?_ fun _ => Timed.keeps_pure _
  exact update_asks fun _ => rfl

theorem launch_asks (script : ProgramScript) : (launch script).Keeps (Asks P) := by
  intro t ho
  show (launched script t).Ordered ∧ Asks P t (launched script t)
  exact ⟨(ho.withState _).scheduleAll _, .nothing (by rw [launched_state])⟩

end Rig

/-! ## Programs that are started -/

/-- Starting a program here is one call, whatever it ends in. -/
theorem Child.spawn_makes (command : List String) (context : String) :
    Makes t [.spawn command] (behind (Child.spawn command context) t) := by
  have hasked : Makes t [.spawn command] (asked (.spawn command) t) := rfl
  have hcount : countStart (asked (.spawn command) t) = .ok t.state.nextScript
      { asked (.spawn command) t with
        state.surroundings.starts := t.state.surroundings.starts + 1 } := rfl
  cases hfailure : t.state.nextScript.spawnFailure with
  | none =>
    have hcalls : (started (asked (.spawn command) t)).state.surroundings.calls =
        (asked (.spawn command) t).state.surroundings.calls := by rw [started_state]
    rw [Timed.behind_of_ok (Child.spawn_apply command context hfailure)]
    exact hcalls
  | some failure =>
    rw [behind, Child.spawn, note_bind, Timed.bind_of_ok hcount, hfailure]
    exact hasked

namespace Remote

/-- The calls that start a program with a line. -/
def startCalls (login : HostLogin) (line : String) : List Call :=
  [.connect login.name login.password login.timeout, .openSession, .combineOutputs, .exec line]

variable {P : Call → Prop}

theorem connect_asks (login : HostLogin) (context : String)
    (h : P (.connect login.name login.password login.timeout)) :
    (Connection.connect login context).Keeps (Asks P) :=
  Connection.connect_keeps_by login context (note_asks h) fun _ => .nothing rfl

theorem openChannel_asks (login : HostLogin) (context : String) (h : P .openSession) :
    (Connection.openChannel login context).Keeps (Asks P) := by
  refine Timed.keeps_state.bind fun _ => ?_
  split
  · refine (note_asks h).bind fun _ => ?_
    split
    · exact Timed.keeps_throw _
    · exact Timed.keeps_pure _
  · exact Timed.keeps_throw _

/-- Starting a program makes these calls and no others. -/
theorem spawn_asks_of {login : HostLogin} {line : String} (context : String)
    (h : ∀ c ∈ startCalls login line, P c) : (spawn login line context).Keeps (Asks P) := by
  have hexec : (exec login line context).Keeps (Asks P) := by
    refine (openChannel_asks _ _ (h _ (by simp [startCalls]))).bind fun _ =>
      (note_asks (h _ (by simp [startCalls]))).bind fun _ =>
      (note_asks (h _ (by simp [startCalls]))).bind fun _ => Timed.keeps_state.bind fun _ => ?_
    split
    · exact Timed.keeps_throw _
    · exact countStart_asks.bind fun _ => launch_asks _
  exact (connect_asks _ _ (h _ (by simp [startCalls]))).bind fun _ =>
    (telling_keeps EquipmentKind.isShell _ hexec).bind fun _ => update_asks fun _ => rfl

/-- The call runs this line and no other, if it runs one. -/
def RunsOnly (line : String) (c : Call) : Prop := ∀ command, c = .exec command → command = line

theorem spawn_asks (login : HostLogin) (line context : String) :
    (spawn login line context).Keeps (Asks (RunsOnly line)) :=
  spawn_asks_of context (by simp [startCalls, RunsOnly])

/-- The line was run. -/
def Runs (line : String) (t t' : Timeline Rig Happening) : Prop :=
  ∃ made, Makes t made t' ∧ .exec line ∈ made

variable {line : String} {t'' : Timeline Rig Happening}

theorem Runs.of_makes {made : List Call} (hmade : Makes t made t') (h : Runs line t' t'') :
    Runs line t t'' := by
  obtain ⟨more, hmore, hmem⟩ := h
  exact ⟨made ++ more, hmade.trans hmore, List.mem_append_right _ hmem⟩

theorem Runs.then_quiet (h : Runs line t t')
    (hquiet : t''.state.surroundings.calls = t'.state.surroundings.calls) : Runs line t t'' := by
  obtain ⟨made, hmade, hmem⟩ := h
  exact ⟨made, hquiet.trans hmade, hmem⟩

theorem Runs.mem (h : Runs line t t') : .exec line ∈ callsSince t t' := by
  obtain ⟨made, hmade, hmem⟩ := h
  rw [hmade.callsSince_eq]
  exact hmem

/-- Where a program was started, the line was run. -/
theorem exec_runs {login : HostLogin} {context : String} {id : ProgramId} (ho : t.Ordered)
    (h : exec login line context t = .ok id t') : Runs line t t' := by
  obtain ⟨_, u, hopen, h⟩ := bind_eq_ok h
  obtain ⟨_, made, hmade, _⟩ :=
    openChannel_asks (P := fun _ => True) login context trivial t ho
  rw [Timed.behind_of_ok hopen] at hmade
  let running := asked (.exec line) (asked .combineOutputs u)
  have hruns : Runs line u running := ⟨[.combineOutputs, .exec line], by simp [Makes, running, asked],
    by simp⟩
  rw [note_bind, note_bind, Timed.state_bind] at h
  cases hfailure : running.state.surroundings.host.execFailure with
  | some text =>
    rw [hfailure] at h
    cases h
  | none =>
    rw [hfailure] at h
    obtain ⟨script, v, hcount, hlaunch⟩ := bind_eq_ok h
    cases hcount
    cases hlaunch
    exact (Runs.of_makes hmade hruns).then_quiet (by rw [Timeline.scheduleAll_state])

/-- A start that succeeds has run the line. -/
theorem spawn_runs {login : HostLogin} {context : String} (ho : t.Ordered)
    (h : spawn login line context t = .ok () t') : Runs line t t' := by
  obtain ⟨_, u, hconnect, h⟩ := bind_eq_ok h
  obtain ⟨hou, made, hmade, _⟩ :=
    connect_asks (P := fun _ => True) login context trivial t ho
  rw [Timed.behind_of_ok hconnect] at hou hmade
  obtain ⟨id, v, htry, hhold⟩ := bind_eq_ok h
  cases hexec : exec login line context u with
  | ok id' w =>
    rw [Timed.tryCatch_of_ok hexec] at htry
    cases htry
    cases hhold
    exact .of_makes hmade ((exec_runs hou hexec).then_quiet rfl)
  | error e w =>
    rw [Timed.tryCatch_of_error hexec] at htry
    split at htry
    · split at htry <;> cases htry
    · cases htry

end Remote

/-! ## Lines for lists -/

namespace Adapter

open Text.ShellWords (readWords readWords_join)

variable {a : Adapter}

/-- The timeline with a role and a place taken. -/
def bound (logical : LogicalAddress) (physical : PhysicalAddress) (t : Timeline Rig Happening) :
    Timeline Rig Happening :=
  { t with
    state.holdings.logical := some logical
    state.holdings.physical := some physical }

theorem bind_apply {role : AddressSpec} {place : PlaceSpec} {logical : LogicalAddress}
    {physical : PhysicalAddress} (hrole : role.resolve = .ok logical)
    (hplace : place.resolve = .ok physical) :
    bind role place t = .ok (logical, physical) (bound logical physical t) := by
  rw [Adapter.bind, hrole, hplace]
  rfl

/-- A role that the adapter can play has a command. -/
theorem command_of_device (s : AdapterSettings) {logical : LogicalAddress} {device : DeviceType}
    (h : logical.deviceType? = some device) (physical : PhysicalAddress) :
    ∃ words, s.command logical physical = .ok words := by
  rw [AdapterSettings.command, h]
  exact ⟨_, rfl⟩

/-- The command line of an adapter that is bound. -/
theorem commandLine_of_bound {logical : LogicalAddress} {physical : PhysicalAddress}
    {words : List String} (hlogical : t.state.holdings.logical = some logical)
    (hphysical : t.state.holdings.physical = some physical)
    (h : a.settings.command logical physical = .ok words) :
    a.commandLine t = .ok (Text.ShellWords.join words) t := by
  rw [commandLine, inHand_bind, hlogical, hphysical, AdapterSettings.commandLine, h]
  rfl

/-- The command line of an adapter that is not bound. -/
theorem commandLine_of_unbound
    (h : t.state.holdings.logical = none ∨ t.state.holdings.physical = none) :
    a.commandLine t = .ok (Text.ShellWords.join a.settings.executable) t := by
  have hline : a.settings.commandLine t.state.holdings.logical t.state.holdings.physical =
      .ok (Text.ShellWords.join a.settings.executable) := by
    unfold AdapterSettings.commandLine
    split
    · rename_i hlogical hphysical
      simp [hlogical, hphysical] at h
    · rfl
  rw [commandLine, inHand_bind, hline]
  rfl

/-- Starting here is one call with the words of the command. -/
theorem start_spawns (hcarrier : a.carrier = .child) (hfree : t.state.holdings.child = none)
    {role : AddressSpec} {place : PlaceSpec} {context : String} {logical : LogicalAddress}
    {physical : PhysicalAddress} {words : List String} (hrole : role.resolve = .ok logical)
    (hplace : place.resolve = .ok physical) (h : a.settings.command logical physical = .ok words) :
    Makes t [.spawn words] (behind (a.start role place context) t) := by
  have hspawn : a.start role place context t =
      Child.spawn words context (bound logical physical t) := by
    rw [start_of_free hcarrier hfree, Timed.bind_of_ok (bind_apply hrole hplace), h]
    rfl
  rw [behind, hspawn]
  exact Child.spawn_makes (t := bound logical physical t) words context

/-- Starting there is done with the command line. -/
theorem start_there {login : HostLogin} (hcarrier : a.carrier = .host login)
    (hfree : t.state.holdings.channel = none) {role : AddressSpec} {place : PlaceSpec}
    (context : String) {logical : LogicalAddress} {physical : PhysicalAddress}
    {words : List String} (hrole : role.resolve = .ok logical)
    (hplace : place.resolve = .ok physical) (h : a.settings.command logical physical = .ok words) :
    a.start role place context t =
      Remote.spawn login (Text.ShellWords.join words) context (bound logical physical t) := by
  have hfresh : a.start role place context t = (do
      let _ ← bind role place
      let command ← a.commandLine
      Remote.spawn login command context : Act Unit) t := by
    rw [start, hcarrier]
    refine (inHand_bind _ t).trans ?_
    simp only [hfree]
    rfl
  rw [hfresh, Timed.bind_of_ok (bind_apply hrole hplace),
    Timed.bind_of_ok (commandLine_of_bound rfl rfl h)]

/-- The command line denotes the list of words that the program is started with.  Whatever the
settings are, a shell reads the line as these words and nothing else.  An adapter that is not bound
gives the words that always come first.  An adapter that is bound, to a role it can play, gives all of
them.  That is the list that a start here takes, and the line that a start on another machine runs. -/
theorem commandLine_denotes (a : Adapter) (ho : t.Ordered) :
    ((t.state.holdings.logical = none ∨ t.state.holdings.physical = none) →
      ∃ line, a.commandLine t = .ok line t ∧ readWords line = some a.settings.executable) ∧
    ∀ logical physical device, logical.deviceType? = some device → ∃ words line,
      a.settings.command logical physical = .ok words ∧ readWords line = some words ∧
      (t.state.holdings.logical = some logical → t.state.holdings.physical = some physical →
        a.commandLine t = .ok line t) ∧
      ∀ role place context, role.resolve = .ok logical → place.resolve = .ok physical →
        let t' := behind (a.start role place context) t
        (a.carrier = .child → t.state.holdings.child = none → callsSince t t' = [.spawn words]) ∧
        ∀ login, a.carrier = .host login → t.state.holdings.channel = none →
          (∀ command, .exec command ∈ callsSince t t' → command = line) ∧
          (a.start role place context t = .ok () t' → .exec line ∈ callsSince t t') := by
  refine ⟨fun h => ⟨_, commandLine_of_unbound h, readWords_join _⟩, ?_⟩
  intro logical physical device hdevice
  obtain ⟨words, hwords⟩ := command_of_device a.settings hdevice physical
  refine ⟨words, Text.ShellWords.join words, hwords, readWords_join words, ?_, ?_⟩
  · intro hlogical hphysical
    exact commandLine_of_bound hlogical hphysical hwords
  · intro role place context hrole hplace t'
    refine ⟨fun hcarrier hfree => ?_, fun login hcarrier hfree => ?_⟩
    · exact (start_spawns hcarrier hfree hrole hplace hwords).callsSince_eq
    · have hstart := start_there hcarrier hfree context hrole hplace hwords
      have ht' : t' = behind (Remote.spawn login (Text.ShellWords.join words) context)
          (bound logical physical t) := by
        simp only [t', behind, hstart]
      have hbound : (bound logical physical t).Ordered := ho.withState _
      constructor
      · intro command hcommand
        have hasks := (Remote.spawn_asks login (Text.ShellWords.join words) context _ hbound).2
        rw [← ht'] at hasks
        exact hasks.of_mem hcommand command rfl
      · intro hok
        exact (Remote.spawn_runs hbound (hstart.symm.trans hok)).mem

/-- Words with blanks, quotes, an empty one and one that a shell would put something in for. -/
theorem commandLine_denotes_of_awkward_words :
    let settings : AdapterSettings :=
      { executable := ["my tool", "it's"], osdName := "\"é\" \\", extraArguments := ["", "$(x)"] }
    let words := ["my tool", "it's", "-t", "p", "-d", "15", "-p", "1", "-a", "1000", "-o",
      "\"é\" \\", "", "$(x)"]
    let here : Adapter := ⟨settings, Codec.usual, .child⟩
    let there : Adapter := ⟨settings, Codec.usual, .host ⟨"pi", "user", "pw", 22, 30⟩⟩
    let t : Timeline Rig Happening := { state := {} }
    let start (a : Adapter) := a.start (.named .playback1) (.text "1.0.0.0") ""
    (∃ line, here.commandLine t = .ok line t ∧ readWords line = some ["my tool", "it's"]) ∧
      callsSince t (behind (start here) t) = [.spawn words] ∧
      ∃ line, .exec line ∈ callsSince t (behind (start there) t) ∧
        readWords line = some words := by
  intro settings words here there t start
  have ho : t.Ordered := Timeline.ordered_idle 0 _
  obtain ⟨hunbound, hhere⟩ := commandLine_denotes here ho
  obtain ⟨_, hthere⟩ := commandLine_denotes there ho
  let physical := PhysicalAddress.ofNibbles 1 0 0 0
  have hplace : (PlaceSpec.text "1.0.0.0").resolve = .ok physical := by decide
  have hcommand : settings.command .playback1 physical = .ok words := by decide
  obtain ⟨spawned, _, hspawned, _, _, hstart⟩ := hhere .playback1 physical .playback rfl
  obtain ⟨executed, line, hexecuted, hreads, _, hstart'⟩ := hthere .playback1 physical .playback rfl
  cases hcommand.symm.trans hspawned
  cases hcommand.symm.trans hexecuted
  have hok : (start there).succeeds t = true := by decide +kernel
  refine ⟨hunbound (.inl rfl), (hstart _ _ "" rfl hplace).1 rfl rfl, line, ?_, hreads⟩
  exact ((hstart' _ _ "" rfl hplace).2 _ rfl rfl).2 (Timed.ok_of_succeeds hok)

end Adapter

end CecBench
