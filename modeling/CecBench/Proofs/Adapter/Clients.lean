import CecBench.Proofs.Adapter.Run

/-!
# Clients that are left open

The connection of an adapter holds one client at most, and closes it when it is
told to disconnect, whatever that ends in.  What can become of the clients in one
step is little (`Connection.Moves`): nothing, or a new one is connected and
taken, or the one held is closed and let go.

A client is connected unless there is a connection, and there is none while the
transport of the client held is not active.  The new client then takes the place
of the one held, which nobody closes.  This is the only way to lose an open
client: a run loses none exactly when no step of it has put one client in the
place of another (`run_loses_none_iff`), and none has as long as transports are
active.
-/

namespace CecBench

open Timed (Keeps behind)
open Timeline (replay)
open Rig

variable {t t' t'' : Timeline Rig Happening} {login : HostLogin} {context : String}

/-- The client was connected and has not been closed. -/
def Rig.IsOpen (r : Rig) (id : ClientId) : Prop := r.surroundings.clients[id]? = some true

instance (r : Rig) (id : ClientId) : Decidable (r.IsOpen id) :=
  inferInstanceAs (Decidable (_ = _))

theorem Rig.IsOpen.lt {r : Rig} {id : ClientId} (h : r.IsOpen id) :
    id < r.surroundings.clients.length := (List.getElem?_eq_some_iff.mp h).1

namespace Connection

/-! ## Steps -/

/-- The clients are the same, and so is the one held. -/
structure SameClients (t t' : Timeline Rig Happening) : Prop where
  host : t'.state.surroundings.host = t.state.surroundings.host
  clients : t'.state.surroundings.clients = t.state.surroundings.clients
  client : t'.state.holdings.client = t.state.holdings.client

instance : Hospitable SameClients where
  elapses _ h := by
    refine ⟨?_, ?_, ?_⟩
    · rw [h.state, replay_surroundings]
    · rw [h.state, replay_surroundings]
    · rw [h.state, replay_holdings]
  trans h h' := ⟨h'.host.trans h.host, h'.clients.trans h.clients, h'.client.trans h.client⟩
  modify _ _ _ _ := ⟨rfl, rfl, rfl⟩
  settle t now :=
    ⟨by rw [settle_surroundings], by rw [settle_surroundings],
      congrArg Holdings.client (settle_holdings now t.state)⟩
  schedule t events _ := by
    have hsame := Timeline.scheduleAll_state t events
    exact ⟨by rw [hsame], by rw [hsame], by rw [hsame]⟩
  asks _ _ _ := ⟨rfl, rfl, rfl⟩
  starts _ _ := ⟨rfl, rfl, rfl⟩
  role _ _ := ⟨rfl, rfl, rfl⟩
  place _ _ := ⟨rfl, rfl, rfl⟩
  launch t script := by
    have hsame := launched_state script t
    exact ⟨by rw [hsame], by rw [hsame], by rw [hsame]⟩

/-- The client held, if there is one, is closed and let go. -/
structure Closes (t t' : Timeline Rig Happening) : Prop where
  host : t'.state.surroundings.host = t.state.surroundings.host
  clients : t'.state.surroundings.clients =
    t.state.holdings.client.elim t.state.surroundings.clients
      (t.state.surroundings.clients.set · false)
  client : t'.state.holdings.client = none

/-- What a step can do to the clients. -/
inductive Moves (t t' : Timeline Rig Happening) : Prop
  | stays : SameClients t t' → Moves t t'
  /-- There is no connection, and a client is connected and taken. -/
  | connects : isConnected t.state = false →
    t'.state.surroundings.host = t.state.surroundings.host →
    t'.state.surroundings.clients = t.state.surroundings.clients ++ [true] →
    t'.state.holdings.client = some t.state.surroundings.clients.length → Moves t t'
  | closes : Closes t t' → Moves t t'

theorem SameClients.isConnected (h : SameClients t t') :
    Connection.isConnected t'.state = Connection.isConnected t.state := by
  rw [Connection.isConnected, h.client, h.host, Connection.isConnected]

theorem Closes.of_same (h : SameClients t t') (h' : Closes t' t'') : Closes t t'' where
  host := h'.host.trans h.host
  clients := by rw [h'.clients, h.client, h.clients]
  client := h'.client

theorem Closes.then_same (h : Closes t t') (h' : SameClients t' t'') : Closes t t'' where
  host := h'.host.trans h.host
  clients := h'.clients.trans h.clients
  client := h'.client.trans h.client

theorem Moves.of_same (h : SameClients t t') (h' : Moves t' t'') : Moves t t'' := by
  cases h' with
  | stays hstays => exact .stays (Timed.Steady.trans h hstays)
  | connects hnot hhost hclients hclient =>
    rw [h.isConnected] at hnot
    rw [h.clients] at hclients hclient
    exact .connects hnot (hhost.trans h.host) hclients hclient
  | closes hcloses => exact .closes (hcloses.of_same h)

theorem Moves.then_same (h : Moves t t') (h' : SameClients t' t'') : Moves t t'' := by
  cases h with
  | stays hstays => exact .stays (Timed.Steady.trans hstays h')
  | connects hnot hhost hclients hclient =>
    exact .connects hnot (h'.host.trans hhost) (h'.clients.trans hclients)
      (h'.client.trans hclient)
  | closes hcloses => exact .closes (hcloses.then_same h')

theorem connect_moves (login : HostLogin) (context : String) :
    (connect login context).Keeps Moves := by
  refine Timed.keeps_look fun t ho => ?_
  by_cases hconnected : isConnected t.state = true
  · rw [if_pos hconnected]
    exact ⟨ho, .stays ⟨rfl, rfl, rfl⟩⟩
  · rw [if_neg hconnected]
    cases hfailure : t.state.surroundings.host.connectFailure with
    | some failure =>
      refine Keeps.mono (R := SameClients) ?_ .stays t ho
      refine Timed.keeps_now.bind fun began => (note_keeps _ Call.noConfusion).bind fun _ => ?_
      have hfail (e : EquipmentError) : (do
          let elapsed := (← Timed.now) - began
          throw (connectFault login context elapsed t.state.surroundings.clock e) :
            Act Unit).Keeps SameClients :=
        Timed.keeps_now.bind fun _ => Timed.keeps_throw _
      dsimp only
      split
      · exact (sleep_keeps _).bind fun _ => hfail _
      · exact hfail _
    | none => exact ⟨ho.withState _, .connects (by simpa using hconnected) rfl rfl rfl⟩

theorem disconnect_of_none (h : t.state.holdings.client = none) : disconnect t = .ok () t := by
  refine (inHand_bind _ t).trans ?_
  simp only [h]
  rfl

/-- The timeline with a client closed and let go. -/
def closed (id : ClientId) (t : Timeline Rig Happening) : Timeline Rig Happening :=
  { t with
    state.surroundings.clients := t.state.surroundings.clients.set id false
    state.surroundings.calls := t.state.surroundings.calls ++ [.disconnect]
    state.holdings.client := none }

/-- A client is closed and let go of even if closing it fails. -/
theorem disconnect_of_some {id : ClientId} (h : t.state.holdings.client = some id) :
    disconnect t = .ok () (closed id t) := by
  let shut : Timeline Rig Happening := { closed id t with state.holdings := t.state.holdings }
  have hshut : overlooking (fun _ => true) (closeClient id) t = .ok () shut := by
    have hclose : closeClient id t =
        failIf t.state.surroundings.host.disconnectFailure "disconnect failed" shut := rfl
    cases hfailure : t.state.surroundings.host.disconnectFailure with
    | none =>
      rw [hfailure] at hclose
      exact Timed.tryCatch_of_ok hclose
    | some kind =>
      rw [hfailure] at hclose
      exact Timed.tryCatch_of_error hclose
  refine (inHand_bind _ t).trans ?_
  simp only [h]
  exact Timed.bind_of_ok hshut

theorem disconnect_closes : disconnect.Keeps Closes := by
  intro t ho
  cases hclient : t.state.holdings.client with
  | none =>
    rw [Timed.behind_of_ok (disconnect_of_none hclient)]
    exact ⟨ho, rfl, by rw [hclient]; rfl, hclient⟩
  | some id =>
    rw [Timed.behind_of_ok (disconnect_of_some hclient)]
    exact ⟨ho.withState _, rfl, by rw [hclient]; rfl, rfl⟩

/-! ## Keeping count of the clients -/

/-- The client held is open. -/
def HoldsOpen (r : Rig) : Prop := ∀ id, r.holdings.client = some id → r.IsOpen id

/-- Every open client is held. -/
def Sealed (r : Rig) : Prop := ∀ id, r.IsOpen id → r.holdings.client = some id

/-- One client is held in the place of another. -/
def Replaces (r r' : Rig) : Prop :=
  ∃ id other, r.holdings.client = some id ∧ r'.holdings.client = some other ∧ id ≠ other

theorem Moves.holdsOpen (h : Moves t t') (hopen : HoldsOpen t.state) : HoldsOpen t'.state := by
  intro id hid
  cases h with
  | stays hsame =>
    rw [Rig.IsOpen, hsame.clients]
    exact hopen id (hsame.client.symm.trans hid)
  | connects _ _ hclients hclient =>
    cases hclient.symm.trans hid
    rw [Rig.IsOpen, hclients]
    exact List.getElem?_concat_length
  | closes hcloses => cases hcloses.client.symm.trans hid

theorem Closes.isOpen_iff (h : Closes t t') {id : ClientId} :
    t'.state.IsOpen id ↔ t.state.IsOpen id ∧ t.state.holdings.client ≠ some id := by
  rw [Rig.IsOpen, Rig.IsOpen, h.clients]
  cases hclient : t.state.holdings.client with
  | none => simp
  | some held =>
    by_cases hsame : held = id
    · subst hsame
      simp [List.getElem?_set]
    · simp [hsame]

theorem isOpen_append {r r' : Rig} {id : ClientId}
    (h : r'.surroundings.clients = r.surroundings.clients ++ [true]) :
    r'.IsOpen id ↔ r.IsOpen id ∨ id = r.surroundings.clients.length := by
  rw [Rig.IsOpen, Rig.IsOpen, h]
  rcases Nat.lt_trichotomy id r.surroundings.clients.length with hlt | heq | hgt
  · rw [List.getElem?_append_left hlt]
    exact (or_iff_left (Nat.ne_of_lt hlt)).symm
  · simp [heq]
  · have hbeyond : (r.surroundings.clients ++ [true]).length ≤ id := by
      rw [List.length_append]
      exact hgt
    rw [List.getElem?_eq_none hgt.le, List.getElem?_eq_none hbeyond]
    exact iff_of_false nofun fun h => h.elim nofun (Nat.ne_of_gt hgt)

/-- A step loses an open client exactly when it puts another one in its place. -/
theorem Moves.sealed_iff (h : Moves t t') (hopen : HoldsOpen t.state) :
    Sealed t'.state ↔ Sealed t.state ∧ ¬ Replaces t.state t'.state := by
  cases h with
  | stays hsame =>
    have hnot : ¬ Replaces t.state t'.state := by
      rintro ⟨id, other, hid, hother, hne⟩
      exact hne (Option.some.inj (hid.symm.trans (hsame.client.symm.trans hother)))
    simp only [Sealed, Rig.IsOpen, hsame.clients, hsame.client, and_iff_left hnot]
  | connects _ _ hclients hclient =>
    cases hheld : t.state.holdings.client with
    | none =>
      have hnot : ¬ Replaces t.state t'.state := by
        rintro ⟨id, _, hid, _⟩
        cases hheld.symm.trans hid
      rw [and_iff_left hnot]
      constructor
      · intro hsealed id hid
        cases hclient.symm.trans (hsealed id ((isOpen_append hclients).mpr (.inl hid)))
        exact absurd hid.lt (Nat.lt_irrefl _)
      · intro hsealed id hid
        rcases (isOpen_append hclients).mp hid with hid | rfl
        · cases hheld.symm.trans (hsealed id hid)
        · exact hclient
    | some held =>
      -- The client held is open, and it is not the new one.
      have hne : held ≠ t.state.surroundings.clients.length :=
        Nat.ne_of_lt (hopen held hheld).lt
      refine iff_of_false (fun hsealed => ?_) fun ⟨_, hnot⟩ => hnot ⟨held, _, hheld, hclient, hne⟩
      have hlost := hsealed held ((isOpen_append hclients).mpr (.inl (hopen held hheld)))
      exact hne (Option.some.inj (hlost.symm.trans hclient))
  | closes hcloses =>
    have hnot : ¬ Replaces t.state t'.state := by
      rintro ⟨_, other, _, hother, _⟩
      cases hcloses.client.symm.trans hother
    rw [and_iff_left hnot]
    constructor
    · intro hsealed id hid
      by_contra hother
      cases hcloses.client.symm.trans (hsealed id (hcloses.isOpen_iff.mpr ⟨hid, hother⟩))
    · intro hsealed id hid
      obtain ⟨hid, hother⟩ := hcloses.isOpen_iff.mp hid
      exact absurd (hsealed id hid) hother

theorem Moves.host (h : Moves t t') :
    t'.state.surroundings.host = t.state.surroundings.host := by
  cases h with
  | stays hsame => exact hsame.host
  | connects _ hhost _ _ => exact hhost
  | closes hcloses => exact hcloses.host

/-- While transports are active no client is put in the place of another. -/
theorem Moves.not_replaces (h : Moves t t')
    (hactive : t.state.surroundings.host.transport = .active) :
    ¬ Replaces t.state t'.state := by
  rintro ⟨id, other, hid, hother, hne⟩
  cases h with
  | stays hsame => exact hne (Option.some.inj (hid.symm.trans (hsame.client.symm.trans hother)))
  | connects hnot _ _ _ => simp [isConnected, hid, hactive] at hnot
  | closes hcloses => cases hcloses.client.symm.trans hother

/-- Behind the closing of the client held, every client is closed exactly if every open one was
held. -/
theorem Closes.none_open_iff (h : Closes t t') :
    (∀ id, ¬ t'.state.IsOpen id) ↔ Sealed t.state := by
  simp only [h.isOpen_iff, Sealed, not_and, not_not]

end Connection

/-! ## Adapters on another machine -/

namespace Remote

open Connection (SameClients Closes Moves)

theorem spawn_moves (login : HostLogin) (command context : String) :
    (spawn login command context).Keeps Moves := by
  refine (Connection.connect_moves login context).chain (fun _ => ?_) id .then_same
  refine Timed.Keeps.bind (R := SameClients) ?_ fun _ => Timed.keeps_update fun _ => ⟨rfl, rfl, rfl⟩
  exact telling_keeps EquipmentKind.isShell _ (exec_keeps _ _ _)

theorem release_closes (id : ProgramId) : (release id).Keeps Closes := by
  have hfails : (closeChannel id).FailsOnly fun fault => ∃ e, fault = .equipment e := by
    refine (Timed.failsOnly_update _).bind fun _ => Timed.FailsOnly.bind ?_ fun _ =>
      Timed.failsOnly_state.bind fun r => ?_
    · exact Timed.failsOnly_now.bind fun _ => Timed.failsOnly_update _
    · cases r.surroundings.host.channelCloseFailure with
      | none => exact Timed.failsOnly_pure _
      | some kind => exact Timed.failsOnly_throw ⟨_, rfl⟩
  refine (overlooking_keeps (P := SameClients) _ (closeChannel_keeps id)).after
    (overlooking_succeeds hfails) (fun _ => ?_) .of_same
  exact (Timed.keeps_update (R := SameClients) fun _ => ⟨rfl, rfl, rfl⟩).after
    (Timed.failsOnly_update _) (fun _ => Connection.disconnect_closes) .of_same

theorem letGo_closes (id : ProgramId) (timeout : Int) : (letGo id timeout).Keeps Closes := by
  have hquit : (tryCatch (do quit id timeout; pure none) fun e => pure (some e) :
      Act (Option Fault)).Keeps SameClients :=
    ((quit_keeps id timeout).bind fun _ => Timed.keeps_pure _).tryCatch fun _ => Timed.keeps_pure _
  have hnever : (tryCatch (do quit id timeout; pure none) fun e => pure (some e) :
      Act (Option Fault)).FailsOnly fun _ => False :=
    Timed.FailsOnly.tryCatch (Q := fun _ => True) (fun _ _ _ _ => trivial) fun _ _ =>
      Timed.failsOnly_pure _
  refine hquit.after hnever (fun ending => ?_) .of_same
  refine (release_closes id).chain (S := SameClients) (fun _ => ?_) (fun h => h) .then_same
  split
  · exact Timed.keeps_pure _
  · split
    · exact Timed.keeps_pure _
    · exact Timed.keeps_throw _
  · exact Timed.keeps_throw _

theorem stop_closes (timeout : Int) : (stop timeout).Keeps Closes := by
  intro t ho
  cases hchannel : t.state.holdings.channel with
  | none =>
    rw [behind, stop_of_none timeout hchannel]
    exact Connection.disconnect_closes t ho
  | some id =>
    obtain ⟨hou, hcloses⟩ := letGo_closes id timeout { t with state.holdings.channel := none }
      (ho.withState _)
    rw [behind, stop_of_some timeout hchannel]
    exact ⟨hou, hcloses.host, hcloses.clients, hcloses.client⟩

end Remote

namespace Adapter

open Connection (SameClients Closes Moves HoldsOpen Sealed Replaces)

variable {a : Adapter}

theorem start_relinks (hcarrier : a.carrier = .host login) (logical : AddressSpec)
    (physical : PlaceSpec) (context : String) :
    (a.start logical physical context).Keeps Moves := by
  rw [start, hcarrier]
  refine (inHand_keeps (Q := SameClients)).chain (fun h => ?_) .stays .of_same
  have hfresh : (do
      let _ ← bind logical physical
      let command ← a.commandLine
      Remote.spawn login command context : Act Unit).Keeps Moves := by
    refine (bind_keeps (Q := SameClients) _ _).chain (fun _ => ?_) .stays .of_same
    exact (a.commandLine_keeps (Q := SameClients)).chain (fun _ => Remote.spawn_moves _ _ _) .stays
      .of_same
  dsimp only
  split
  · exact (Timed.keeps_throw (R := SameClients) _).chain (fun _ => hfresh) .stays .of_same
  · exact hfresh

theorem stop_closes (hcarrier : a.carrier = .host login) : a.stop.Keeps Closes := by
  rw [stop, hcarrier]
  exact Remote.stop_closes _

theorem Step.relinks (hcarrier : a.carrier = .host login) (step : Step) :
    (step.act a).Keeps Moves := by
  have hhost {work : HostLogin → Act Unit} (h : (work login).Keeps Moves) :
      (a.onHost work).Keeps Moves := by
    rw [onHost, hcarrier]
    exact h
  have hquiet (h : step.IsQuiet) : (step.act a).Keeps Moves :=
    (Step.keeps_of_quiet (Q := SameClients) a h).mono .stays
  cases step with
  | start logical physical context => exact start_relinks hcarrier logical physical context
  | stop => exact (stop_closes hcarrier).mono .closes
  | connect context => exact hhost (Connection.connect_moves login context)
  | enter => exact hhost (Connection.connect_moves login _)
  | disconnect => exact hhost (Connection.disconnect_closes.mono .closes)
  | writeLine | sendFrame | readByHand | openChannel | sleep | prompt | plan => exact hquiet trivial

/-! ## Runs -/

/-- A step of the run puts one client in the place of another. -/
def Replaced (a : Adapter) (steps : List Step) (t : Timeline Rig Happening) : Prop :=
  ∃ before step after, steps = before ++ step :: after ∧
    Replaces (a.run before t).state (behind (step.act a) (a.run before t)).state

theorem replaced_cons {step : Step} {steps : List Step} :
    a.Replaced (step :: steps) t ↔
      Replaces t.state (behind (step.act a) t).state ∨
        a.Replaced steps (behind (step.act a) t) := by
  constructor
  · rintro ⟨before, other, after, hsplit, h⟩
    cases before with
    | nil =>
      cases hsplit
      exact .inl h
    | cons first before =>
      cases hsplit
      exact .inr ⟨before, other, after, rfl, h⟩
  · rintro (h | ⟨before, other, after, rfl, h⟩)
    · exact ⟨[], step, steps, rfl, h⟩
    · exact ⟨step :: before, other, after, rfl, h⟩

/-- A run from a state in which all open clients are held. -/
theorem run_sealed_iff (hcarrier : a.carrier = .host login) (steps : List Step) (ho : t.Ordered)
    (hopen : HoldsOpen t.state) :
    Sealed (a.run steps t).state ↔ Sealed t.state ∧ ¬ a.Replaced steps t := by
  induction steps generalizing t with
  | nil =>
    have hnot : ¬ a.Replaced [] t := by
      rintro ⟨before, step, after, hsplit, _⟩
      simp at hsplit
    exact (and_iff_left hnot).symm
  | cons step steps ih =>
    obtain ⟨hou, hmoves⟩ := step.relinks hcarrier t ho
    refine (ih hou (hmoves.holdsOpen hopen)).trans ?_
    rw [hmoves.sealed_iff hopen, replaced_cons, not_or, and_assoc]

theorem run_not_replaced (hcarrier : a.carrier = .host login) (steps : List Step) (ho : t.Ordered)
    (hactive : t.state.surroundings.host.transport = .active) : ¬ a.Replaced steps t := by
  induction steps generalizing t with
  | nil =>
    rintro ⟨before, step, after, hsplit, _⟩
    simp at hsplit
  | cons step steps ih =>
    obtain ⟨hou, hmoves⟩ := step.relinks hcarrier t ho
    rw [replaced_cons, not_or]
    exact ⟨hmoves.not_replaces hactive, ih hou (hmoves.host ▸ hactive)⟩

/-- No client was connected yet, and then the adapter and its connection are asked for `steps`.
Every open client is the one held exactly if no step has put one client in the place of another, and
then, and only then, stopping or disconnecting leaves no client open, whatever it ends in.  While
transports are active, no step does so. -/
theorem run_loses_none_iff (a : Adapter) (hcarrier : a.carrier = .host login) (ho : t.Ordered)
    (hnone : t.state.surroundings.clients = []) (hfree : t.state.holdings.client = none)
    (steps : List Step) :
    let u := a.run steps t
    ((∀ id, u.state.IsOpen id → u.state.holdings.client = some id) ↔ ¬ a.Replaced steps t) ∧
    ((∀ id, ¬ (behind a.stop u).state.IsOpen id) ↔ ¬ a.Replaced steps t) ∧
    ((∀ id, ¬ (behind Connection.disconnect u).state.IsOpen id) ↔ ¬ a.Replaced steps t) ∧
    (t.state.surroundings.host.transport = .active → ¬ a.Replaced steps t) := by
  intro u
  have hopen : HoldsOpen t.state := fun id hid => by cases hfree.symm.trans hid
  have hsealed : Sealed t.state := fun id hid => by
    have hlt := hid.lt
    rw [hnone] at hlt
    exact absurd hlt (Nat.not_lt_zero id)
  have hou : u.Ordered := (a.run_keeps (T := Aged) steps ho).1
  have hiff : Sealed u.state ↔ ¬ a.Replaced steps t :=
    (run_sealed_iff hcarrier steps ho hopen).trans (and_iff_right hsealed)
  refine ⟨hiff, ?_, ?_, run_not_replaced hcarrier steps ho⟩
  · exact (stop_closes hcarrier u hou).2.none_open_iff.trans hiff
  · exact (Connection.disconnect_closes u hou).2.none_open_iff.trans hiff

/-- A client that fails to close is closed all the same. -/
theorem run_loses_none_iff_of_failing_close :
    let a : Adapter := ⟨{}, Codec.usual, .host ⟨"pi", "user", "pw", 22, 30⟩⟩
    let t : Timeline Rig Happening :=
      { state.surroundings.host.disconnectFailure := some .system }
    let u := a.run [.connect "", .start (.named .playback1) (.text "1.0.0.0") ""] t
    u.state.surroundings.clients = [true] ∧ u.state.holdings.client = some 0 ∧
      ∀ id, ¬ (behind a.stop u).state.IsOpen id := by
  intro a t u
  have hactive : t.state.surroundings.host.transport = .active := rfl
  obtain ⟨_, hstop, _, hnever⟩ := run_loses_none_iff a rfl (Timeline.ordered_idle 0 _)
    (t := t) rfl rfl [.connect "", .start (.named .playback1) (.text "1.0.0.0") ""]
  exact ⟨by decide +kernel, by decide +kernel, hstop.mpr (hnever hactive)⟩

/-- The transport of a client is not active, and so the next one is connected in its place.  From
then on two clients are open, and disconnecting closes only one of them. -/
theorem connect_leaves_client_open :
    let a : Adapter := ⟨{}, Codec.usual, .host ⟨"pi", "user", "pw", 22, 30⟩⟩
    let t : Timeline Rig Happening := { state.surroundings.host.transport := .inactive }
    let first := a.run [.connect "a"] t
    let second := a.run [.connect "a", .connect "b"] t
    let ended := a.run [.connect "a", .connect "b", .disconnect] t
    first.state.holdings.client = some 0 ∧ second.state.holdings.client = some 1 ∧
      second.state.IsOpen 0 ∧ second.state.IsOpen 1 ∧
      ended.state.holdings.client = none ∧ ended.state.IsOpen 0 := by
  decide +kernel

end Adapter

end CecBench
