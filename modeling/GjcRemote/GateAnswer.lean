import GjcRemote.OrderedMap
import GjcRemote.Utf16

/-! The store of the gates that are shown in Discord, from `bot/src/gate-answer.js`, and the state
texts that retire its entries, from `bot/src/gate-presentation.js`. Tokens are numbered in the order
of their creation. Left out are the channel, the choices and the message of an entry. -/
namespace GjcRemote.GateAnswer

open Utf16 OrderedMap Option List Bool

inductive State where
  | presenting | answerable | answering | answered | expired | disconnected | replaced
  deriving DecidableEq

def TERMINAL_STATES : List State := [.answered,.expired,.disconnected,.replaced]

def State.terminal (state : State) : Bool := state ∈ TERMINAL_STATES

structure Entry where
  token : Nat
  hostId : Units
  requestId : Units
  gateId : Units
  presentationId : Units
  userId : Units
  messageId : Option Units
  state : State
  deriving DecidableEq

structure Shown where
  hostId : Units
  requestId : Units
  gateId : Units
  presentationId : Units
  userId : Units

def Entry.shown (entry : Entry) : Shown :=
  ⟨entry.hostId,entry.requestId,entry.gateId,entry.presentationId,entry.userId⟩

def Shown.complete (shown : Shown) : Bool :=
  [shown.hostId,shown.requestId,shown.gateId,shown.presentationId,shown.userId].all fun value => value ≠ []

structure Store where
  maxEntries : Nat
  /-- A capacity from 1 to 64. -/
  bounded : 1 ≤ maxEntries ∧ maxEntries ≤ 64
  entries : OrderedMap Nat Entry
  tokensByMessageId : OrderedMap Units Nat
  drawn : Nat

def Store.new (maxEntries : Nat) (bounded : 1 ≤ maxEntries ∧ maxEntries ≤ 64) : Store :=
  ⟨maxEntries,bounded,.empty,.empty,0⟩

variable (s : Store)

section

variable (token : Nat)

def Store.remove : Store :=
  match s.entries.get token with
  | none => s
  | some entry => {s with
      tokensByMessageId := entry.messageId.elim s.tokensByMessageId s.tokensByMessageId.delete,
      entries := s.entries.delete token}

def Store.firstRetired : Option (Nat × Entry) := s.entries.entries.find? fun e => e.2.state.terminal

/-- Retired entries make room, as many turns as there are entries. -/
def Store.makeRoom : Nat → Store → Store
  | 0,s => s
  | turns + 1,s =>
    if s.entries.size < s.maxEntries then s
    else
      match s.firstRetired with
      | none => s
      | some retired => Store.makeRoom turns (s.remove retired.1)

def Shown.entry (shown : Shown) (token : Nat) : Entry :=
  ⟨token,shown.hostId,shown.requestId,shown.gateId,shown.presentationId,shown.userId,none,.presenting⟩

def Store.create (shown : Shown) : Store × Option Nat :=
  let s := s.makeRoom s.entries.size
  if s.maxEntries ≤ s.entries.size then (s,none)
  else
    let token := s.drawn
    let s := {s with drawn := token + 1}
    if shown.complete then ({s with entries := s.entries.set token (shown.entry token)},some token) else (s,none)

def Store.setState (entry : Entry) (state : State) : Store :=
  {s with entries := s.entries.set token {entry with state := state}}

def Store.allowed (allows : Entry → Bool) : Option Entry := (s.entries.get token).filter allows

/-- The entry of a token goes on to a state, when it allows that. -/
def Store.advance (allows : Entry → Bool) (state : State) : Option Store :=
  (s.allowed token allows).map fun entry => s.setState token entry state

/-- A message that is bound to no entry yet becomes that of an entry that has none. -/
def Store.bindMessage (messageId : Units) : Option Store :=
  match s.allowed token fun entry => entry.state = .presenting && entry.messageId.isNone with
  | none => none
  | some entry =>
    if messageId = [] ∨ (s.tokensByMessageId.get messageId).isSome then none
    else some {s with
      entries := s.entries.set token {entry with messageId := some messageId},
      tokensByMessageId := s.tokensByMessageId.set messageId token}

def Store.activate : Option Store :=
  s.advance token (fun entry => entry.state = .presenting && entry.messageId.isSome) .answerable

structure Reply where
  token : Nat
  messageId : Units
  userId : Units
  replyToMessageId : Option Units

def Entry.admits (entry : Entry) (reply : Reply) : Bool :=
  entry.state = .answerable && entry.userId = reply.userId && entry.messageId = some reply.messageId &&
    reply.replyToMessageId.all fun message => entry.messageId = some message

def Store.beginAnswer (reply : Reply) : Option Store :=
  s.advance reply.token (fun entry => entry.admits reply) .answering

def Store.rejectAnswer : Option Store :=
  s.advance token (fun entry => entry.state = .answering) .answerable

def Store.completeAnswer : Option Store :=
  s.advance token (fun entry => entry.state = .answering) .answered

def Store.retire (state : State) : Store :=
  (s.advance token (fun entry => state.terminal && !entry.state.terminal) state).getD s

/-- `toLowerCase()` of a text in ASCII, as every state text is. -/
def lowerCase (text : Units) : Units := text.map fun u => if 0x41 ≤ u ∧ u ≤ 0x5a then u + 0x20 else u

def includes (text part : Units) : Bool := text.tails.any fun rest => part.isPrefixOf rest

def retirement (text : Units) : Option State :=
  let normalized := lowerCase text
  if normalized = ofString "answered" then some .answered
  else if includes normalized (ofString "disconnect") then some .disconnected
  else if includes normalized (ofString "replace") then some .replaced
  else if includes normalized (ofString "expire") || includes normalized (ofString "failed") ||
      includes normalized (ofString "timeout") || includes normalized (ofString "reject") then
    if normalized = ofString "rejected" then none else some .expired
  else none

def Store.updateState (text : Units) : Store :=
  (retirement text).elim s (s.retire token)

end

structure Store.Numbered : Prop where
  tokens : ∀ t entry, s.entries.get t = some entry → entry.token = t ∧ t < s.drawn

/-- From one store to a later one the entries that are terminal do not change, and no entry comes back. -/
structure Store.Later (s s' : Store) : Prop where
  drawn : s.drawn ≤ s'.drawn
  capacity : s'.maxEntries = s.maxEntries
  entry : ∀ t entry, s'.entries.get t = some entry → t < s.drawn →
    ∃ before, s.entries.get t = some before ∧ entry.shown = before.shown ∧
      (before.state.terminal = true → entry = before)

theorem Store.Later.refl : s.Later s :=
  ⟨Nat.le_refl _,rfl,fun _ entry found _ => ⟨entry,found,rfl,fun _ => rfl⟩⟩

theorem Store.Later.trans {s s' s'' : Store} (first : s.Later s') (second : s'.Later s'') : s.Later s'' := by
  refine ⟨Nat.le_trans first.drawn second.drawn,second.capacity.trans first.capacity,fun t entry found below => ?_⟩
  obtain ⟨middle,there,shown,kept⟩ := second.entry t entry found (Nat.lt_of_lt_of_le below first.drawn)
  obtain ⟨before,there',shown',kept'⟩ := first.entry t middle there below
  refine ⟨before,there',shown.trans shown',fun terminal => ?_⟩
  have same := kept' terminal
  exact (kept (same ▸ terminal)).trans same

structure Store.Moves (s s' : Store) : Prop where
  later : s.Later s'
  drawn : s'.drawn = s.drawn
  numbered : s.Numbered → s'.Numbered

theorem Store.Moves.refl : s.Moves s := ⟨.refl s,rfl,id⟩

theorem Store.Moves.trans {s s' s'' : Store} (first : s.Moves s') (second : s'.Moves s'') : s.Moves s'' :=
  ⟨first.later.trans second.later,second.drawn.trans first.drawn,second.numbered ∘ first.numbered⟩

def Store.Over (token : Nat) : Prop :=
  ∀ entry, s.entries.get token = some entry → entry.state.terminal = true

theorem Store.Over.later {s s' : Store} (ended : s.Over token) (later : s.Later s')
    (below : token < s.drawn) : s'.Over token := by
  intro entry found
  obtain ⟨before,there,-,kept⟩ := later.entry token entry found below
  have terminal := ended before there
  rw [kept terminal]
  exact terminal

/-- An entry that is there is answered at the moment, or terminal. -/
def Store.Busy (token : Nat) : Prop :=
  ∀ entry, s.entries.get token = some entry → entry.state = .answering ∨ entry.state.terminal = true

structure Store.Changes (s s' : Store) (token : Nat) (entry entry' : Entry) : Prop where
  found : s.entries.get token = some entry
  live : entry.state.terminal = false
  named : entry'.token = entry.token
  shown : entry'.shown = entry.shown
  entries : s'.entries = s.entries.set token entry'
  drawn : s'.drawn = s.drawn
  capacity : s'.maxEntries = s.maxEntries

section Changes

variable {s s' : Store} {token : Nat} {entry entry' : Entry}

section

variable (changes : s.Changes s' token entry entry')
include changes

theorem Store.Changes.get (t : Nat) :
    s'.entries.get t = if t = token then some entry' else s.entries.get t := by
  rw [changes.entries,get_set]

theorem Store.Changes.later : s.Later s' := by
  refine ⟨Nat.le_of_eq changes.drawn.symm,changes.capacity,fun t e found below => ?_⟩
  rw [changes.get] at found
  by_cases same : t = token
  · rw [if_pos same] at found
    cases found
    refine ⟨entry,same ▸ changes.found,changes.shown,fun terminal => ?_⟩
    rw [changes.live] at terminal
    cases terminal
  · rw [if_neg same] at found
    exact ⟨e,found,rfl,fun _ => rfl⟩

theorem Store.Changes.numbered (numbered : s.Numbered) : s'.Numbered := by
  constructor
  intro t e found
  rw [changes.drawn]
  rw [changes.get] at found
  by_cases same : t = token
  · rw [if_pos same] at found
    cases found
    rw [changes.named,same]
    exact numbered.tokens token entry changes.found
  · rw [if_neg same] at found
    exact numbered.tokens t e found

theorem Store.Changes.moves : s.Moves s' :=
  ⟨changes.later,changes.drawn,changes.numbered⟩

/-- Another entry than that of the token, or one that leaves no answer. -/
theorem Store.Changes.busy (busy : s.Busy t)
    (kept : t = token → entry.state ≠ .answering ∨ entry'.state.terminal) : s'.Busy t := by
  intro e found
  rw [changes.get] at found
  by_cases same : t = token
  · rw [if_pos same] at found
    cases found
    rcases kept same with idle | terminal
    · rcases busy entry (same ▸ changes.found) with answering | terminal
      · exact absurd answering idle
      · rw [changes.live] at terminal
        cases terminal
    · exact .inr terminal
  · rw [if_neg same] at found
    exact busy e found

end

end Changes

theorem advance_changes {s s' : Store} (live : ∀ entry, allows entry → entry.state.terminal = false)
    (advanced : s.advance token allows state = some s') :
    ∃ entry, allows entry ∧ s.Changes s' token entry {entry with state := state} := by
  obtain ⟨entry,allowed,rfl⟩ := map_eq_some_iff.mp advanced
  obtain ⟨found,allows'⟩ := filter_eq_some_iff.mp allowed
  exact ⟨entry,allows',found,live entry allows',rfl,rfl,rfl,rfl,rfl⟩

theorem bindMessage_changes {s s' : Store} (bound : s.bindMessage token messageId = some s') :
    ∃ entry, entry.state = .presenting ∧ s.Changes s' token entry {entry with messageId := some messageId} := by
  unfold Store.bindMessage at bound
  split at bound
  · cases bound
  next entry allowed =>
  obtain ⟨found,allows⟩ := filter_eq_some_iff.mp allowed
  rw [and_eq_true,decide_eq_true_eq] at allows
  split at bound
  · cases bound
  · cases bound
    exact ⟨entry,allows.1,found,by rw [allows.1]; rfl,rfl,rfl,rfl,rfl,rfl⟩

theorem activate_changes {s s' : Store} (activated : s.activate token = some s') :
    ∃ entry, entry.state = .presenting ∧ s.Changes s' token entry {entry with state := .answerable} := by
  have presenting (entry : Entry) (allows : (entry.state = .presenting && entry.messageId.isSome)) :
      entry.state = .presenting := by
    rw [and_eq_true,decide_eq_true_eq] at allows
    exact allows.1
  obtain ⟨entry,allows,changes⟩ := advance_changes (fun entry allows => by rw [presenting entry allows]; rfl) activated
  exact ⟨entry,presenting entry allows,changes⟩

/-- The user of the entry replies on its message, while it is answerable. -/
structure Answers (entry : Entry) (reply : Reply) : Prop where
  state : entry.state = .answerable
  user : entry.userId = reply.userId
  message : entry.messageId = some reply.messageId
  replied : ∀ message ∈ reply.replyToMessageId, entry.messageId = some message

theorem admits_iff : entry.admits reply ↔ Answers entry reply := by
  simp only [Entry.admits,and_eq_true,decide_eq_true_eq]
  constructor
  · rintro ⟨⟨⟨state,user⟩,message⟩,replied⟩
    refine ⟨state,user,message,fun other there => ?_⟩
    rw [mem_def.mp there] at replied
    simpa using replied
  · intro answers
    refine ⟨⟨⟨answers.state,answers.user⟩,answers.message⟩,?_⟩
    cases there : reply.replyToMessageId with
    | none => rfl
    | some other => simpa using answers.replied other there

theorem beginAnswer_changes {s s' : Store} (begun : s.beginAnswer reply = some s') :
    ∃ entry, Answers entry reply ∧ s.Changes s' reply.token entry {entry with state := .answering} := by
  have answers (entry : Entry) (allows : entry.admits reply) : Answers entry reply := admits_iff.mp allows
  obtain ⟨entry,allows,changes⟩ := advance_changes (fun entry allows => by rw [(answers entry allows).state]; rfl) begun
  exact ⟨entry,answers entry allows,changes⟩

/-- A rejection, or a completion. -/
theorem endAnswer_changes {s s' : Store} {token : Nat} {state : State}
    (ended : s.advance token (fun entry => entry.state = .answering) state = some s') :
    ∃ entry, entry.state = .answering ∧ s.Changes s' token entry {entry with state := state} := by
  have answering (entry : Entry) (allows : decide (entry.state = .answering) = true) : entry.state = .answering :=
    of_decide_eq_true allows
  obtain ⟨entry,allows,changes⟩ := advance_changes (fun entry allows => by rw [answering entry allows]; rfl) ended
  exact ⟨entry,answering entry allows,changes⟩

/-- What a retirement leaves. -/
theorem retire_cases (token : Nat) (state : State) :
    s.retire token state = s ∨
      ∃ entry, state.terminal ∧ s.Changes (s.retire token state) token entry {entry with state := state} := by
  unfold Store.retire
  cases advanced : s.advance token (fun entry => state.terminal && !entry.state.terminal) state with
  | none => exact .inl rfl
  | some s' =>
    right
    have both (entry : Entry) (allows : (state.terminal && !entry.state.terminal)) :
        state.terminal ∧ entry.state.terminal = false := by simpa using allows
    obtain ⟨entry,allows,changes⟩ := advance_changes (fun entry allows => (both entry allows).2) advanced
    exact ⟨entry,(both entry allows).1,changes⟩

theorem retire_moves (token : Nat) (state : State) : s.Moves (s.retire token state) := by
  rcases retire_cases s token state with same | ⟨entry,-,changes⟩
  · rw [same]
    exact .refl s
  · exact changes.moves

theorem retire_busy {s : Store} (busy : s.Busy t) (token : Nat) (state : State) :
    (s.retire token state).Busy t := by
  rcases retire_cases s token state with same | ⟨entry,terminal,changes⟩
  · rwa [same]
  · exact changes.busy busy fun _ => .inr terminal

theorem retire_over {s : Store} (terminal : state.terminal) :
    (s.retire token state).Over token := by
  intro entry found
  unfold Store.retire Store.advance Store.allowed at found
  cases there : s.entries.get token with
  | none => simp [there] at found
  | some before =>
    cases live : before.state.terminal with
    | true =>
      simp only [there,filter_some,terminal,live,Bool.not_true,Bool.and_false,Bool.false_eq_true,if_false,
        map_none,getD_none,Option.some.injEq] at found
      rwa [← found]
    | false =>
      simp only [there,filter_some,terminal,live,Bool.not_false,Bool.and_self,if_true,map_some,
        getD_some,Store.setState,get_set_self,Option.some.injEq] at found
      rw [← found]
      exact terminal

theorem retirement_terminal (retires : retirement text = some state) :
    state.terminal := by
  simp only [retirement] at retires
  split at retires
  · cases retires
    rfl
  split at retires
  · cases retires
    rfl
  split at retires
  · cases retires
    rfl
  split at retires
  · split at retires
    · cases retires
    · cases retires
      rfl
  · cases retires

theorem updateState_moves (token : Nat) (text : Units) : s.Moves (s.updateState token text) := by
  unfold Store.updateState
  cases retirement text with
  | none => exact .refl s
  | some state => exact retire_moves s token state

theorem updateState_busy {s : Store} (busy : s.Busy t) (token : Nat) (text : Units) :
    (s.updateState token text).Busy t := by
  unfold Store.updateState
  cases retirement text with
  | none => exact busy
  | some state => exact retire_busy busy token state

/-- A text that retires leaves no live entry. -/
theorem updateState_over {s : Store} (retires : (retirement text).isSome) :
    (s.updateState token text).Over token := by
  obtain ⟨state,same⟩ := isSome_iff_exists.mp retires
  rw [Store.updateState,same]
  exact retire_over (retirement_terminal same)

def Store.live : List Nat := (s.entries.entries.filter fun e => !e.2.state.terminal).map Prod.fst

theorem live_nodup : s.live.Nodup := s.entries.distinct.sublist (filter_sublist.map _)

theorem mem_live {s : Store} : token ∈ s.live ↔ ¬s.Over token := by
  simp only [Store.live,Store.Over,List.mem_map,List.mem_filter,Bool.not_eq_true',not_forall,Bool.not_eq_true]
  constructor
  · rintro ⟨⟨t,entry⟩,⟨member,live⟩,rfl⟩
    exact ⟨entry,get_eq_some.mpr member,live⟩
  · rintro ⟨entry,found,live⟩
    exact ⟨(token,entry),⟨get_eq_some.mp found,live⟩,rfl⟩

theorem Store.Moves.over {s s' : Store} (moves : s.Moves s') (numbered : s.Numbered)
    (ended : s.Over token) : s'.Over token := by
  by_cases below : token < s.drawn
  · exact ended.later moves.later below
  · intro entry found
    have drawn := ((moves.numbered numbered).tokens token entry found).2
    rw [moves.drawn] at drawn
    exact absurd drawn below

theorem Store.Moves.live {s s' : Store} (moves : s.Moves s') (numbered : s.Numbered) : s'.live.length ≤ s.live.length := by
  refine (live_nodup s').length_le_of_subset fun token live => ?_
  rw [mem_live] at live ⊢
  exact fun ended => live (moves.over numbered ended)

structure Store.Shrinks (s s' : Store) : Prop where
  drawn : s'.drawn = s.drawn
  capacity : s'.maxEntries = s.maxEntries
  kept : ∀ t entry, s'.entries.get t = some entry → s.entries.get t = some entry

theorem remove_shrinks (token : Nat) : s.Shrinks (s.remove token) := by
  unfold Store.remove
  split
  · exact ⟨rfl,rfl,fun _ _ found => found⟩
  · refine ⟨rfl,rfl,fun t entry found => ?_⟩
    exact (get_delete_eq_some.mp found).2

theorem makeRoom_shrinks (turns : Nat) (s : Store) : s.Shrinks (s.makeRoom turns) := by
  induction turns generalizing s with
  | zero => exact ⟨rfl,rfl,fun _ _ found => found⟩
  | succ turns ih =>
    unfold Store.makeRoom
    split
    · exact ⟨rfl,rfl,fun _ _ found => found⟩
    split
    · exact ⟨rfl,rfl,fun _ _ found => found⟩
    next retired _ =>
    have removed := remove_shrinks s retired.1
    have rest := ih (s.remove retired.1)
    exact ⟨rest.drawn.trans removed.drawn,rest.capacity.trans removed.capacity,
      fun t entry found => removed.kept t entry (rest.kept t entry found)⟩

theorem remove_size {s : Store} (there : retired ∈ s.entries.entries) :
    (s.remove retired.1).entries.size < s.entries.size := by
  have found : s.entries.get retired.1 = some retired.2 := get_eq_some.mpr there
  simp only [Store.remove,found,size,delete]
  exact length_filter_lt_length_iff_exists.mpr ⟨retired,there,by simp⟩

/-- A store that stays full is full of entries that are not terminal. -/
theorem makeRoom_full {s : Store} (enough : s.entries.size ≤ turns)
    (full : (s.makeRoom turns).maxEntries ≤ (s.makeRoom turns).entries.size) :
    ∀ e ∈ (s.makeRoom turns).entries.entries, e.2.state.terminal = false := by
  induction turns generalizing s with
  | zero =>
    have bounded := s.bounded.1
    rw [Store.makeRoom] at full
    omega
  | succ turns ih =>
    unfold Store.makeRoom at full ⊢
    by_cases room : s.entries.size < s.maxEntries
    · rw [if_pos room] at full
      omega
    rw [if_neg room] at full ⊢
    cases retired : s.firstRetired with
    | none =>
      intro e member
      have live := find?_eq_none.mp retired e member
      simpa using live
    | some first =>
      simp only [retired] at full ⊢
      have smaller := remove_size (mem_of_find?_eq_some retired)
      exact ih (by omega) full

section Create

variable {s : Store} {shown : Shown}

theorem create_none (refused : (s.create shown).2 = none) :
    (s.create shown).1.entries = (s.makeRoom s.entries.size).entries ∧ s.drawn ≤ (s.create shown).1.drawn ∧
      (s.create shown).1.maxEntries = s.maxEntries ∧
      (shown.complete → s.maxEntries ≤ (s.makeRoom s.entries.size).entries.size) := by
  have room := makeRoom_shrinks s.entries.size s
  simp only [Store.create] at refused ⊢
  split at refused
  · next full =>
    rw [if_pos full]
    exact ⟨rfl,Nat.le_of_eq room.drawn.symm,room.capacity,fun _ => room.capacity ▸ full⟩
  next free =>
  rw [if_neg free]
  split at refused
  · cases refused
  next incomplete =>
  rw [if_neg incomplete]
  refine ⟨rfl,?_,room.capacity,fun complete => absurd complete incomplete⟩
  rw [room.drawn]
  exact Nat.le_succ _

theorem create_some (created : (s.create shown).2 = some token) :
    token = s.drawn ∧ (s.create shown).1.drawn = s.drawn + 1 ∧ (s.create shown).1.maxEntries = s.maxEntries ∧
      (s.create shown).1.entries = (s.makeRoom s.entries.size).entries.set token (shown.entry token) := by
  have room := makeRoom_shrinks s.entries.size s
  simp only [Store.create] at created ⊢
  split at created
  · cases created
  next free =>
  rw [if_neg free]
  split at created
  · next complete =>
    rw [if_pos complete]
    cases created
    rw [room.drawn]
    exact ⟨rfl,rfl,room.capacity,rfl⟩
  · cases created

/-- A store refuses a gate that is complete when it is full of live entries. -/
theorem create_refused (refused : (s.create shown).2 = none) (complete : shown.complete) :
    s.maxEntries ≤ s.live.length := by
  have room := makeRoom_shrinks s.entries.size s
  have full := (create_none refused).2.2.2 complete
  have live := makeRoom_full (Nat.le_refl s.entries.size) (room.capacity ▸ full)
  refine Nat.le_trans full ?_
  have inside : (s.makeRoom s.entries.size).entries.keys ⊆ s.live := by
    intro token member
    obtain ⟨entry,found⟩ := mem_keys.mp member
    rw [mem_live]
    intro ended
    have terminal := ended entry (room.kept token entry found)
    rw [live (token,entry) (get_eq_some.mp found)] at terminal
    cases terminal
  have bound := (s.makeRoom s.entries.size).entries.distinct.length_le_of_subset inside
  rwa [length_map] at bound

theorem create_later : s.Later (s.create shown).1 := by
  have room := makeRoom_shrinks s.entries.size s
  cases created : (s.create shown).2 with
  | none =>
    obtain ⟨entries,drawn,capacity,-⟩ := create_none created
    refine ⟨drawn,capacity,fun t entry found _ => ?_⟩
    rw [entries] at found
    exact ⟨entry,room.kept t entry found,rfl,fun _ => rfl⟩
  | some token =>
    obtain ⟨own,drawn,capacity,entries⟩ := create_some created
    refine ⟨by omega,capacity,fun t entry found below => ?_⟩
    rw [entries,get_set,if_neg (by omega)] at found
    exact ⟨entry,room.kept t entry found,rfl,fun _ => rfl⟩

theorem create_numbered (numbered : s.Numbered) : (s.create shown).1.Numbered := by
  have room := makeRoom_shrinks s.entries.size s
  constructor
  intro t entry found
  cases created : (s.create shown).2 with
  | none =>
    obtain ⟨entries,drawn,-,-⟩ := create_none created
    rw [entries] at found
    obtain ⟨named,below⟩ := numbered.tokens t entry (room.kept t entry found)
    exact ⟨named,by omega⟩
  | some token =>
    obtain ⟨own,drawn,-,entries⟩ := create_some created
    rw [entries,get_set] at found
    split at found
    · next same =>
      cases found
      exact ⟨same.symm,by omega⟩
    · obtain ⟨named,below⟩ := numbered.tokens t entry (room.kept t entry found)
      exact ⟨named,by omega⟩

theorem create_busy (busy : s.Busy t) (below : t < s.drawn) : (s.create shown).1.Busy t := by
  have room := makeRoom_shrinks s.entries.size s
  intro entry found
  cases created : (s.create shown).2 with
  | none =>
    rw [(create_none created).1] at found
    exact busy entry (room.kept t entry found)
  | some token =>
    obtain ⟨own,-,-,entries⟩ := create_some created
    rw [entries,get_set,if_neg (by omega)] at found
    exact busy entry (room.kept t entry found)

/-- A new entry, or one that was there. -/
theorem create_entry (found : (s.create shown).1.entries.get t = some entry) :
    s.entries.get t = some entry ∨ (s.create shown).2 = some t := by
  have room := makeRoom_shrinks s.entries.size s
  cases created : (s.create shown).2 with
  | none =>
    rw [(create_none created).1] at found
    exact .inl (room.kept t entry found)
  | some token =>
    obtain ⟨own,-,-,entries⟩ := create_some created
    rw [entries,get_set] at found
    split at found
    · next same => exact .inr (congrArg some same.symm)
    · exact .inl (room.kept t entry found)

end Create

end GjcRemote.GateAnswer
