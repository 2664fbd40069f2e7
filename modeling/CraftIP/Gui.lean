import CraftIP.Client.Reader

/-!
# The panels of the GUI (`client-gui/src/main.rs`, `client-gui/src/gui_channel.rs`)

Every server has a panel with its state, a text for the local address and a button. The UI thread renders
the panels and handles what the user does with them; the others change the active panel, the first that is
not disconnected.
-/

namespace CraftIP

/-- `client/src/structs.rs`. `unexpectedPacket` has what was read, whose text the source takes; the other texts
are the system's or a packet's. -/
inductive ClientError where
  | io (error : String)
  | protocolError (e : PacketCodecError)
  | proxyClosedConnection
  | userClosedConnection
  | timeout
  | proxyError (error : String)
  | minecraftServerNotFound
  | unexpectedPacket (packet : Option (Except PacketCodecError SocketPacket))
  | other (error : String)
deriving DecidableEq, Repr

/-- `client/src/structs.rs`. `auth` is the private key; `localServer` is the source's `local`, which is a word
of Lean. -/
structure Client.Server (Key : Type) where
  server : String
  localServer : String
  auth : Key
deriving DecidableEq, Repr

def STANDARD_LOCAL_PORT : String := "25565"

inductive ServerState where
  | disconnected
  | connecting (attempt : Nat)
  | connected (clients : Nat)
  | disconnecting
deriving DecidableEq, Repr

/-- The text of a panel's error: "Error connecting: " or "Connection error: ", and the error. -/
inductive PanelError where
  | connecting (e : ClientError)
  | connection (e : HandleError)
deriving DecidableEq, Repr

structure ServerPanel (Key : Type) where
  server : String
  auth : Key
  localServer : String
  editLocal : Option String
  state : ServerState
  ping : Option UInt16
  error : Option PanelError

inductive GuiTriggeredEvent (Key : Type) where
  | connect (server : Client.Server Key)
  | disconnect
deriving DecidableEq, Repr

def GuiTriggeredEvent.isDisconnect {Key : Type} : GuiTriggeredEvent Key → Bool
  | .connect _ => false
  | .disconnect => true

/-! ### Ports -/

/-- `str::parse::<u16>`. -/
def parseU16 (s : String) : Option UInt16 :=
  let digits := match s.toList with
    | '+' :: rest => rest
    | l => l
  if digits = [] ∨ ¬ digits.all Char.isDigit then none
  else
    let n := digits.foldl (fun n c => 10 * n + (c.toNat - '0'.toNat)) 0
    if n ≤ 65535 then some (UInt16.ofNat n) else none

theorem isDigit_of_mem_toString {n : Nat} {c : Char} (h : c ∈ (toString n).toList) : c.isDigit = true := by
  rw [Nat.toString_eq_repr, Nat.toList_repr] at h
  exact Nat.isDigit_of_mem_toDigits (by decide) (by decide) h

theorem parseU16_toString (port : UInt16) : parseU16 (toString port.toNat) = some port := by
  have hdigits : ¬ ((toString port.toNat).toList = [] ∨ ¬ (toString port.toNat).toList.all Char.isDigit) := by
    rintro (hnil | hall)
    · rw [Nat.toString_eq_repr, Nat.toList_repr] at hnil
      exact Nat.toDigits_ne_nil hnil
    · exact hall (List.all_eq_true.2 fun c hc => isDigit_of_mem_toString hc)
  have hvalue : (toString port.toNat).toList.foldl (fun n c => 10 * n + (c.toNat - '0'.toNat)) 0 = port.toNat := by
    rw [Nat.toString_eq_repr, Nat.toList_repr]
    exact Nat.ofDigitChars_ten_toDigits
  have hle : port.toNat ≤ 65535 := Nat.le_of_lt_succ port.toNat_lt
  rw [parseU16]
  split
  · next rest hplus =>
    have hsign := isDigit_of_mem_toString (hplus ▸ List.mem_cons_self : '+' ∈ (toString port.toNat).toList)
    cases hsign
  · rw [if_neg hdigits, hvalue, if_pos hle, UInt16.ofNat_toNat]

/-! ### What the user does -/

/-- A click on one of the panel's buttons, or a new text in the field for the local address. -/
inductive PanelEvent where
  | edit
  | typed (text : String)
  | ok
  | cancel
  | reset
  | button
deriving DecidableEq

namespace ServerPanel
variable {Key : Type}

def ofServer (server : Client.Server Key) : ServerPanel Key :=
  { server := server.server
    auth := server.auth
    localServer := server.localServer
    editLocal := none
    state := .disconnected
    ping := none
    error := none }

def toServer (p : ServerPanel Key) : Client.Server Key := ⟨p.server, p.localServer, p.auth⟩

/-- Not disconnected. -/
def active (p : ServerPanel Key) : Bool := p.state ≠ .disconnected

def shown (p : ServerPanel Key) : ServerState × Option PanelError := (p.state, p.error)

/-- The server that the Connect button sends: a port alone is one of this machine. -/
def connectServer (p : ServerPanel Key) : Client.Server Key :=
  let server := p.toServer
  let localServer := match parseU16 server.localServer with
    | some port => "localhost:" ++ toString port.toNat
    | none => server.localServer
  { server with localServer }

/-- What is enabled of the panel, and what it does. -/
def render (p : ServerPanel Key) (enabled : Bool) (e : PanelEvent) :
    Option (ServerPanel Key × Option (GuiTriggeredEvent Key)) :=
  if !enabled then none
  else
    match e, p.editLocal with
    | .edit, none =>
      if p.state = .disconnected then some ({ p with editLocal := some p.localServer }, none) else none
    | .typed text, some _ => some ({ p with editLocal := some text }, none)
    | .ok, some text => some ({ p with localServer := text, editLocal := none }, none)
    | .cancel, some _ => some ({ p with editLocal := none }, none)
    | .reset, some _ => some ({ p with editLocal := none, localServer := STANDARD_LOCAL_PORT }, none)
    | .button, none =>
      match p.state with
      | .connected _ | .connecting _ => some ({ p with error := none, state := .disconnecting }, some .disconnect)
      | .disconnected => some ({ p with error := none, state := .connecting 0 }, some (.connect p.connectServer))
      | .disconnecting => none
    | _, _ => none

end ServerPanel

/-! ### The panels -/

/-- `GuiState`, of which the panels are looked at; `servers` is `None` while they are loaded. -/
structure GuiState (Key : Type) where
  servers : Option (List (ServerPanel Key))

/-- The first element that meets the condition is changed. -/
def changeFirst {α : Type} (p : α → Bool) (f : α → α) : List α → Option (List α)
  | [] => none
  | x :: l => if p x then some (f x :: l) else (changeFirst p f l).map (x :: ·)

namespace GuiState
variable {Key : Type}

def new (servers : List (Client.Server Key)) : GuiState Key := ⟨some (servers.map .ofServer)⟩

/-- `None` is the error that no active server, or none at all, was found. -/
def setActiveServer (g : GuiState Key) (closure : ServerPanel Key → ServerPanel Key) : Option (GuiState Key) :=
  match g.servers with
  | none => none
  | some servers => (changeFirst ServerPanel.active closure servers).map fun servers => ⟨some servers⟩

/-- One frame of the UI, with what the user does in the panel with the number. -/
def render (g : GuiState Key) (i : Nat) (e : PanelEvent) :
    Option (GuiState Key × Option (GuiTriggeredEvent Key)) :=
  match g.servers with
  | none => none
  | some servers =>
    match servers[i]? with
    | none => none
    | some p =>
      let alreadyConnected := servers.any ServerPanel.active
      let enabled := !alreadyConnected || p.active
      (p.render enabled e).map fun r => (⟨some (servers.set i r.1)⟩, r.2)

/-- State and error of the panels that are not disconnected. -/
def shown (g : GuiState Key) : List (ServerState × Option PanelError) :=
  ((g.servers.getD []).filter ServerPanel.active).map ServerPanel.shown

end GuiState

/-! ### What changes the active panel -/

section ChangeFirst
variable {α : Type} {p : α → Bool} {f : α → α} {l l' : List α}

theorem changeFirst_eq_none_iff : changeFirst p f l = none ↔ l.filter p = [] := by
  induction l with
  | nil => simp [changeFirst]
  | cons x l ih =>
    rw [changeFirst]
    by_cases hx : p x = true
    · simp [hx]
    · rw [if_neg hx, Option.map_eq_none_iff, ih, List.filter_cons_of_neg hx]

theorem filter_changeFirst (h : changeFirst p f l = some l') :
    ∃ x rest, l.filter p = x :: rest ∧ l'.filter p = if p (f x) then f x :: rest else rest := by
  induction l generalizing l' with
  | nil => cases h
  | cons x l ih =>
    rw [changeFirst] at h
    split at h
    · next hx =>
      cases h
      refine ⟨x, l.filter p, List.filter_cons_of_pos hx, ?_⟩
      rw [List.filter_cons]
    · next hx =>
      obtain ⟨l'', hl'', rfl⟩ := Option.map_eq_some_iff.1 h
      obtain ⟨y, rest, hy, hrest⟩ := ih hl''
      exact ⟨y, rest, by rw [List.filter_cons_of_neg hx]; exact hy, by
        rw [List.filter_cons_of_neg hx]; exact hrest⟩

theorem exists_set {i : Nat} {x : α} (h : l[i]? = some x) :
    ∃ l₁ l₂, l = l₁ ++ x :: l₂ ∧ ∀ y, l.set i y = l₁ ++ y :: l₂ := by
  obtain ⟨hi, rfl⟩ := List.getElem?_eq_some_iff.1 h
  refine ⟨l.take i, l.drop (i + 1), ?_, fun y => List.set_eq_take_append_cons_drop .. ▸ if_pos hi⟩
  rw [← List.drop_eq_getElem_cons hi, List.take_append_drop]

end ChangeFirst

namespace GuiState
variable {Key : Type} {g g' : GuiState Key}

theorem shown_new (servers : List (Client.Server Key)) : (new servers).shown = [] := by
  simp [shown, new, ServerPanel.active, ServerPanel.ofServer]

theorem mem_shown {x : ServerState × Option PanelError} (h : x ∈ g.shown) : x.1 ≠ .disconnected := by
  obtain ⟨p, hp, rfl⟩ := List.mem_map.1 h
  exact of_decide_eq_true (List.mem_filter.1 hp).2

theorem setActiveServer_eq_none_iff {closure : ServerPanel Key → ServerPanel Key} :
    g.setActiveServer closure = none ↔ g.shown = [] := by
  rw [setActiveServer, shown]
  cases g.servers with
  | none => simp
  | some servers => simp [changeFirst_eq_none_iff]

/-- `k` says what the closure makes of state and error. -/
theorem shown_setActiveServer {closure : ServerPanel Key → ServerPanel Key}
    {k : ServerState × Option PanelError → ServerState × Option PanelError}
    (hk : ∀ p, (closure p).shown = k p.shown) (h : g.setActiveServer closure = some g') :
    ∃ x rest, g.shown = x :: rest ∧ g'.shown = if (k x).1 ≠ .disconnected then k x :: rest else rest := by
  rw [setActiveServer] at h
  rw [shown, shown]
  cases hs : g.servers with
  | none => rw [hs] at h; cases h
  | some servers =>
    rw [hs] at h
    obtain ⟨servers', hs', rfl⟩ := Option.map_eq_some_iff.1 h
    obtain ⟨p, rest, hp, hrest⟩ := filter_changeFirst hs'
    refine ⟨p.shown, rest.map ServerPanel.shown, by simp [hp], ?_⟩
    have hactive : (closure p).active = decide ((k p.shown).1 ≠ .disconnected) := by rw [← hk]; rfl
    simp only [Option.getD_some, hrest, hactive, decide_eq_true_eq]
    split
    · rw [List.map_cons, hk]
    · rfl

end GuiState

/-- What an event in a panel comes to. -/
theorem ServerPanel.render_eq_some {Key : Type} {p p' : ServerPanel Key} {enabled : Bool} {e : PanelEvent}
    {event : Option (GuiTriggeredEvent Key)} (h : p.render enabled e = some (p', event)) :
    enabled = true ∧
      ((event = none ∧ p'.shown = p.shown) ∨
        (e = .button ∧ event = some (.connect p.connectServer) ∧ p.active = false ∧
          p'.shown = (.connecting 0, none)) ∨
        (e = .button ∧ event = some .disconnect ∧ p.active = true ∧ p'.shown = (.disconnecting, none))) := by
  cases enabled with
  | false => cases h
  | true =>
    refine ⟨rfl, ?_⟩
    cases hedit : p.editLocal with
    | none =>
      cases e with
      | edit =>
        simp only [render, hedit, Bool.not_true, Bool.false_eq_true, if_false] at h
        split at h
        · cases h; exact .inl ⟨rfl, rfl⟩
        · cases h
      | button =>
        simp only [render, hedit, Bool.not_true, Bool.false_eq_true, if_false] at h
        cases hs : p.state with
        | disconnected =>
          rw [hs] at h; cases h
          exact .inr (.inl ⟨rfl, rfl, by rw [active, hs]; rfl, rfl⟩)
        | connecting attempt =>
          rw [hs] at h; cases h
          exact .inr (.inr ⟨rfl, rfl, by rw [active, hs]; rfl, rfl⟩)
        | connected clients =>
          rw [hs] at h; cases h
          exact .inr (.inr ⟨rfl, rfl, by rw [active, hs]; rfl, rfl⟩)
        | disconnecting => rw [hs] at h; cases h
      | _ => simp [render, hedit] at h
    | some text =>
      -- while the address is edited nothing but the address changes
      cases e <;> simp only [render, hedit, Bool.not_true, Bool.false_eq_true, if_false] at h <;> cases h <;>
        exact .inl ⟨rfl, rfl⟩

namespace GuiState
variable {Key : Type} {g g' : GuiState Key}

/-- The panels of a frame: the button connects when every panel is disconnected, and disconnects one that
is not. -/
theorem render_eq_some {i : Nat} {e : PanelEvent} {event : Option (GuiTriggeredEvent Key)}
    (h : g.render i e = some (g', event)) :
    (event = none ∧ g'.shown = g.shown) ∨
      (∃ server, e = .button ∧ event = some (.connect server) ∧ g.shown = [] ∧
        g'.shown = [(.connecting 0, none)]) ∨
      (e = .button ∧ event = some .disconnect ∧ ∃ l₁ x l₂, g.shown = l₁ ++ x :: l₂ ∧
        g'.shown = l₁ ++ (.disconnecting, none) :: l₂) := by
  rw [render] at h
  rw [shown, shown]
  cases hs : g.servers with
  | none => rw [hs] at h; cases h
  | some servers =>
    simp only [hs] at h
    cases hi : servers[i]? with
    | none => rw [hi] at h; cases h
    | some p =>
      simp only [hi] at h
      obtain ⟨⟨p', event'⟩, hp, he⟩ := Option.map_eq_some_iff.1 h
      cases he
      obtain ⟨l₁, l₂, hl, hset⟩ := exists_set hi
      obtain ⟨henabled, hrender⟩ := ServerPanel.render_eq_some hp
      have hold : servers.filter ServerPanel.active =
          l₁.filter ServerPanel.active ++ (p :: l₂).filter ServerPanel.active := by
        rw [hl, List.filter_append]
      have hnew : (servers.set i p').filter ServerPanel.active =
          l₁.filter ServerPanel.active ++ (p' :: l₂).filter ServerPanel.active := by
        rw [hset, List.filter_append]
      simp only [Option.getD_some, hold, hnew, List.map_append]
      rcases hrender with ⟨rfl, hshown⟩ | ⟨rfl, rfl, hactive, hshown⟩ | ⟨rfl, rfl, hactive, hshown⟩
      · have hactive : p'.active = p.active := by
          rw [ServerPanel.active, ServerPanel.active, show p'.state = p.state from congrArg Prod.fst hshown]
        refine .inl ⟨rfl, ?_⟩
        rw [List.filter_cons, List.filter_cons, hactive]
        split
        · rw [List.map_cons, List.map_cons, hshown]
        · rfl
      · -- the button was enabled, so no panel is active
        rw [hactive, Bool.or_false, Bool.not_eq_true', List.any_eq_false] at henabled
        have hnone : ∀ {l : List (ServerPanel Key)}, (∀ q ∈ l, q ∈ servers) →
            l.filter ServerPanel.active = [] := fun hsub =>
          List.filter_eq_nil_iff.2 fun q hq => henabled q (hsub q hq)
        have hnone₁ := hnone (l := l₁) (fun q hq => by rw [hl]; simp [hq])
        have hnone₂ := hnone (l := l₂) (fun q hq => by rw [hl]; simp [hq])
        have hactive' : p'.active = true := by
          rw [ServerPanel.active, show p'.state = .connecting 0 from congrArg Prod.fst hshown]; rfl
        refine .inr (.inl ⟨_, rfl, rfl, ?_, ?_⟩)
        · rw [hnone₁, List.filter_cons_of_neg (by simp [hactive]), hnone₂]; rfl
        · rw [hnone₁, List.filter_cons_of_pos hactive', hnone₂, List.map_cons, hshown]; rfl
      · have hactive' : p'.active = true := by
          rw [ServerPanel.active, show p'.state = .disconnecting from congrArg Prod.fst hshown]; rfl
        refine .inr (.inr ⟨rfl, rfl, (l₁.filter ServerPanel.active).map ServerPanel.shown, p.shown,
          (l₂.filter ServerPanel.active).map ServerPanel.shown, ?_, ?_⟩)
        · rw [List.filter_cons_of_pos hactive, List.map_cons]
        · rw [List.filter_cons_of_pos hactive', List.map_cons, hshown]

end GuiState
end CraftIP
