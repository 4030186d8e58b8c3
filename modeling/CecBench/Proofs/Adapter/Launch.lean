import CecBench.Proofs.Adapter.Conduct
import CecBench.Proofs.Rig.Performance

/-!
# The program that an adapter starts

A start that succeeds has started one program with the next script, no time has
passed, and what the script says is on the agenda (`Launched`).  The adapter
holds that program: its output is what can be read, and its exit code is what
the adapter tells.
-/

namespace CecBench

open Timed (bind_eq_ok lift_eq_ok)
open Timeline (Elapses replay)
open Rig

variable {t t' t'' : Timeline Rig Happening} {id : ProgramId} {script : ProgramScript}

/-! ## Preparations -/

/-- No time has passed, and no program was started. -/
structure Prepared (t t' : Timeline Rig Happening) : Prop where
  now : t'.now = t.now
  agenda : t'.agenda = t.agenda
  programs : t'.state.surroundings.programs = t.state.surroundings.programs
  nextScript : t'.state.nextScript = t.state.nextScript

theorem Prepared.refl (t : Timeline Rig Happening) : Prepared t t := ⟨rfl, rfl, rfl, rfl⟩

theorem Prepared.trans (h : Prepared t t') (h' : Prepared t' t'') : Prepared t t'' where
  now := h'.now.trans h.now
  agenda := h'.agenda.trans h.agenda
  programs := h'.programs.trans h.programs
  nextScript := h'.nextScript.trans h.nextScript

theorem note_prepared {c : Call} (h : note c t = .ok () t') : Prepared t t' := by
  cases h
  exact ⟨rfl, rfl, rfl, rfl⟩

theorem hold_prepared {f : Holdings → Holdings} (h : hold f t = .ok () t') : Prepared t t' := by
  cases h
  exact ⟨rfl, rfl, rfl, rfl⟩

theorem state_eq_ok {r : Rig} (h : (Timed.state : Act Rig) t = .ok r t') :
    r = t.state ∧ t = t' := by
  cases h
  exact ⟨rfl, rfl⟩

theorem inHand_eq_ok {hands : Holdings} (h : inHand t = .ok hands t') :
    hands = t.state.holdings ∧ t = t' := by
  cases h
  exact ⟨rfl, rfl⟩

/-- A program was started with a script. -/
structure Launched (script : ProgramScript) (id : ProgramId) (t t' : Timeline Rig Happening) :
    Prop where
  now : t'.now = t.now
  agenda : t'.agenda = (t.scheduleAll (script.events.map fun e => (e.1, ⟨id, e.2⟩))).agenda
  isNew : id = t.state.surroundings.programs.length
  program : t'.state.program? id = some (Program.start script)

/-- The program in hand is the one that was started with the next script. -/
theorem countStart_launch (hcount : countStart t = .ok script t')
    (hlaunch : launch script t' = .ok id t'') : Launched t.state.nextScript id t t'' := by
  cases hcount
  cases hlaunch
  refine ⟨Timeline.scheduleAll_now _ _, ?_, rfl, ?_⟩
  · apply Timeline.scheduleAll_agenda_congr <;> rfl
  · simp [program?, Timeline.scheduleAll_state]

theorem Launched.of_prepared (h : Prepared t t') (h' : Launched t'.state.nextScript id t' t'') :
    Launched t.state.nextScript id t t'' := by
  obtain ⟨hnow, hagenda, hnew, hprogram⟩ := h'
  rw [h.nextScript] at hagenda hprogram
  exact ⟨hnow.trans h.now,
    hagenda.trans (Timeline.scheduleAll_agenda_congr h.now h.agenda _),
    hnew.trans (congrArg List.length h.programs), hprogram⟩

theorem Launched.ordered (h : Launched script id t t') (ho : t.Ordered) : t'.Ordered := by
  have hall := ho.scheduleAll (script.events.map fun e => (e.1, (⟨id, e.2⟩ : Happening)))
  refine ⟨h.agenda ▸ hall.sorted, fun x hx => ?_⟩
  rw [h.now, ← Timeline.scheduleAll_now t (script.events.map fun e => (e.1, ⟨id, e.2⟩))]
  exact hall.ahead x (h.agenda ▸ hx)

theorem Launched.hold {f : Holdings → Holdings} (h : Launched script id t t')
    (hhold : hold f t' = .ok () t'') : Launched script id t t'' := by
  cases hhold
  exact ⟨h.now, h.agenda, h.isNew, h.program⟩

/-! ## Programs on this machine -/

theorem Child.spawn_eq_ok {command : List String} {context : String}
    (h : Child.spawn command context t = .ok () t') :
    ∃ id, Launched t.state.nextScript id t t' ∧ t'.state.holdings.child = some id := by
  obtain ⟨_, u, hnote, h⟩ := bind_eq_ok h
  obtain ⟨script, v, hcount, h⟩ := bind_eq_ok h
  cases hfailure : script.spawnFailure with
  | some failure =>
    rw [hfailure] at h
    obtain ⟨_, _, _, h⟩ := bind_eq_ok h
    cases h
  | none =>
    rw [hfailure] at h
    obtain ⟨id, w, hlaunch, hhold⟩ := bind_eq_ok h
    have hlaunched := (countStart_launch hcount hlaunch).of_prepared (note_prepared hnote)
    refine ⟨id, hlaunched.hold hhold, ?_⟩
    cases hhold
    rfl

theorem Child.output_eq_ok (h : Child.output t = .ok id t') :
    t.state.holdings.child = some id ∧ t = t' := by
  obtain ⟨r, u, hr, h⟩ := bind_eq_ok h
  obtain ⟨rfl, rfl⟩ := state_eq_ok hr
  cases hchild : t.state.holdings.child with
  | none =>
    simp only [hchild] at h
    cases h
  | some id' =>
    simp only [hchild] at h
    split_ifs at h
    · cases h
      exact ⟨rfl, rfl⟩
    · cases h

/-! ## Programs on another machine -/

theorem Connection.connect_eq_ok {login : HostLogin} {context : String}
    (h : Connection.connect login context t = .ok () t') : Prepared t t' := by
  obtain ⟨r, u, hr, h⟩ := bind_eq_ok h
  obtain ⟨rfl, rfl⟩ := state_eq_ok hr
  by_cases hconnected : Connection.isConnected t.state = true
  · rw [if_pos hconnected] at h
    cases h
    exact .refl t
  · rw [if_neg hconnected] at h
    obtain ⟨began, v, hbegan, h⟩ := bind_eq_ok h
    cases hbegan
    obtain ⟨_, v, hnote, h⟩ := bind_eq_ok h
    cases hfailure : t.state.surroundings.host.connectFailure with
    | some failure =>
      rw [hfailure] at h
      -- The connection fails, at once or after a while.
      cases hafter : failure.after with
      | some after =>
        simp only [hafter] at h
        obtain ⟨_, _, _, h⟩ := bind_eq_ok h
        cases h
      | none =>
        simp only [hafter] at h
        cases h
    | none =>
      rw [hfailure] at h
      cases h
      exact (note_prepared hnote).trans ⟨rfl, rfl, rfl, rfl⟩

theorem Connection.openChannel_eq_ok {login : HostLogin} {context : String}
    (h : Connection.openChannel login context t = .ok () t') : Prepared t t' := by
  obtain ⟨r, u, hr, h⟩ := bind_eq_ok h
  obtain ⟨rfl, rfl⟩ := state_eq_ok hr
  by_cases hconnected : Connection.isConnected t.state = true
  · rw [if_pos hconnected] at h
    obtain ⟨_, v, hnote, h⟩ := bind_eq_ok h
    cases hfailure : t.state.surroundings.host.openFailure with
    | some text =>
      rw [hfailure] at h
      cases h
    | none =>
      rw [hfailure] at h
      cases h
      exact note_prepared hnote
  · rw [if_neg hconnected] at h
    cases h

theorem Remote.exec_eq_ok {login : HostLogin} {command context : String}
    (h : Remote.exec login command context t = .ok id t') :
    Launched t.state.nextScript id t t' := by
  obtain ⟨_, u, hopen, h⟩ := bind_eq_ok h
  obtain ⟨_, v, hcombine, h⟩ := bind_eq_ok h
  obtain ⟨_, w, hexec, h⟩ := bind_eq_ok h
  have hprepared := ((Connection.openChannel_eq_ok hopen).trans (note_prepared hcombine)).trans
    (note_prepared hexec)
  obtain ⟨r, x, hr, h⟩ := bind_eq_ok h
  obtain ⟨rfl, rfl⟩ := state_eq_ok hr
  cases hfailure : w.state.surroundings.host.execFailure with
  | some text =>
    rw [hfailure] at h
    cases h
  | none =>
    rw [hfailure] at h
    obtain ⟨script, y, hcount, hlaunch⟩ := bind_eq_ok h
    exact (countStart_launch hcount hlaunch).of_prepared hprepared

theorem Remote.spawn_eq_ok {login : HostLogin} {command context : String}
    (h : Remote.spawn login command context t = .ok () t') :
    ∃ id, Launched t.state.nextScript id t t' ∧
      t'.state.holdings.channel = some id ∧ t'.state.holdings.hasStreams = true := by
  obtain ⟨_, u, hconnect, h⟩ := bind_eq_ok h
  obtain ⟨id, v, hexec, hhold⟩ := bind_eq_ok h
  refine ⟨id, ?_, ?_⟩
  · cases hrun : Remote.exec login command context u with
    | ok id' w =>
      rw [Timed.tryCatch_of_ok hrun] at hexec
      cases hexec
      exact ((Remote.exec_eq_ok hrun).of_prepared (Connection.connect_eq_ok hconnect)).hold hhold
    | error e w =>
      rw [Timed.tryCatch_of_error hrun] at hexec
      split at hexec
      · split at hexec <;> cases hexec
      · cases hexec
  · cases hhold
    exact ⟨rfl, rfl⟩

theorem Remote.output_eq_ok (h : Remote.output t = .ok id t') :
    (t.state.holdings.channel = some id ∧ t.state.holdings.hasStreams = true) ∧ t = t' := by
  obtain ⟨hands, u, hu, h⟩ := bind_eq_ok h
  obtain ⟨rfl, rfl⟩ := inHand_eq_ok hu
  cases hchannel : t.state.holdings.channel with
  | none =>
    simp only [hchannel] at h
    cases h
  | some id' =>
    cases hstreams : t.state.holdings.hasStreams with
    | false =>
      simp only [hchannel, hstreams] at h
      cases h
    | true =>
      simp only [hchannel, hstreams] at h
      cases h
      exact ⟨⟨rfl, rfl⟩, rfl⟩

/-! ## What an adapter holds -/

namespace Adapter

/-- The adapter's program is this one. -/
def Holds (a : Adapter) (id : ProgramId) (r : Rig) : Prop :=
  match a.carrier with
  | .none => False
  | .child => r.holdings.child = some id
  | .host _ => r.holdings.channel = some id ∧ r.holdings.hasStreams = true

variable {a : Adapter}

theorem Holds.exitCode {r : Rig} (h : a.Holds id r) : a.exitCode r = r.exitCode id := by
  unfold Holds at h
  unfold Adapter.exitCode
  cases hcarrier : a.carrier <;> rw [hcarrier] at h
  · exact h.elim
  · exact congrArg (·.bind r.exitCode) h
  · exact congrArg (·.bind r.exitCode) h.1

theorem Holds.unique {r : Rig} {other : ProgramId} (h : a.Holds id r) (h' : a.Holds other r) :
    id = other := by
  unfold Holds at h h'
  cases hcarrier : a.carrier <;> rw [hcarrier] at h h'
  · exact h.elim
  · exact Option.some.inj (h.symm.trans h')
  · exact Option.some.inj (h.1.symm.trans h'.1)

/-- An output that can be read is that of the adapter's program. -/
theorem output_eq_ok (h : a.output t = .ok id t') : a.Holds id t.state ∧ t = t' := by
  unfold Adapter.output at h
  unfold Holds
  cases hcarrier : a.carrier <;> rw [hcarrier] at h
  · cases h
  · exact Child.output_eq_ok h
  · exact Remote.output_eq_ok h

/-! ## Starting -/

theorem bind_prepared {logical : AddressSpec} {physical : PlaceSpec}
    {x : LogicalAddress × PhysicalAddress} (h : bind logical physical t = .ok x t') :
    Prepared t t' := by
  unfold Adapter.bind at h
  obtain ⟨l, u, hl, h⟩ := bind_eq_ok h
  obtain ⟨_, rfl⟩ := lift_eq_ok hl
  obtain ⟨_, v, hv, h⟩ := bind_eq_ok h
  obtain ⟨p, w, hp, h⟩ := bind_eq_ok h
  obtain ⟨_, rfl⟩ := lift_eq_ok hp
  obtain ⟨_, x, hx, h⟩ := bind_eq_ok h
  cases h
  exact (hold_prepared hv).trans (hold_prepared hx)

/-- A start that succeeds has started a program, and the adapter holds it. -/
theorem start_eq_ok {logical : AddressSpec} {physical : PlaceSpec} {context : String}
    (h : a.start logical physical context t = .ok () t') :
    ∃ id, Launched t.state.nextScript id t t' ∧ a.Holds id t'.state := by
  unfold Adapter.start at h
  cases hcarrier : a.carrier with
  | none =>
    rw [hcarrier] at h
    cases h
  | child =>
    rw [hcarrier] at h
    obtain ⟨hands, u, hu, h⟩ := bind_eq_ok h
    obtain ⟨rfl, rfl⟩ := inHand_eq_ok hu
    by_cases hbusy : t.state.holdings.child.isSome = true
    · rw [if_pos hbusy] at h
      obtain ⟨_, _, _, h⟩ := bind_eq_ok h
      obtain ⟨_, _, hthrow, _⟩ := bind_eq_ok h
      cases hthrow
    · rw [if_neg hbusy] at h
      obtain ⟨_, u, hbind, h⟩ := bind_eq_ok h
      obtain ⟨command, v, hcommand, h⟩ := bind_eq_ok h
      obtain ⟨_, rfl⟩ := lift_eq_ok hcommand
      obtain ⟨id, hlaunched, hchild⟩ := Child.spawn_eq_ok h
      refine ⟨id, hlaunched.of_prepared (bind_prepared hbind), ?_⟩
      rw [Holds, hcarrier]
      exact hchild
  | host login =>
    rw [hcarrier] at h
    obtain ⟨hands, u, hu, h⟩ := bind_eq_ok h
    obtain ⟨rfl, rfl⟩ := inHand_eq_ok hu
    by_cases hbusy : t.state.holdings.channel.isSome = true
    · rw [if_pos hbusy] at h
      obtain ⟨_, _, hthrow, _⟩ := bind_eq_ok h
      cases hthrow
    · rw [if_neg hbusy] at h
      obtain ⟨_, u, hbind, h⟩ := bind_eq_ok h
      obtain ⟨command, v, hcommand, h⟩ := bind_eq_ok h
      obtain ⟨hands, w, hw, hlift⟩ := bind_eq_ok hcommand
      obtain ⟨rfl, rfl⟩ := inHand_eq_ok hw
      obtain ⟨_, rfl⟩ := lift_eq_ok hlift
      obtain ⟨id, hlaunched, hchannel⟩ := Remote.spawn_eq_ok h
      refine ⟨id, hlaunched.of_prepared (bind_prepared hbind), ?_⟩
      rw [Holds, hcarrier]
      exact hchannel

end Adapter

end CecBench
