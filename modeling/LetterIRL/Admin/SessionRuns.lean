import LetterIRL.Admin.Sessions

namespace LetterIRL.Admin.Sessions

open Lib

/-! What holds of the sessions over every run of the requests. -/

variable {options : AdminSessionStoreOptions} {store after : AdminSessionStore} {foundings : List Founding} {uses : List Use}
  {lines : SessionId → List SessionId} {session : AdminSession} {id : SessionId} {now : Int}

namespace AdminSessionStore

def Known (store : AdminSessionStore) (id : SessionId) : Prop := ∃ session, store.objects id = some session

theorem write_objects (store : AdminSessionStore) (session : AdminSession) (other : SessionId) :
    (store.write session).objects other = if other = session.id then some session else store.objects other :=
  Function.update_apply _ _ _ _

theorem known_write (known : store.Known id) : (store.write session).Known id := by
  unfold Known
  rw [write_objects]
  split
  · exact ⟨session, rfl⟩
  · exact known

theorem get_eq_some : store.get id = some session ↔ id ∈ store.held ∧ store.objects id = some session := by
  unfold get
  split
  · rename_i member
    exact ⟨fun found => ⟨member, found⟩, fun found => found.2⟩
  · rename_i absent
    exact ⟨fun found => (nomatch found), fun found => absurd found.1 absent⟩

/-- The store with some of its entries let go, and nothing else changed. -/
structure Fewer (store after : AdminSessionStore) : Prop where
  held : after.held.Sublist store.held
  objects : after.objects = store.objects

theorem fewer_delete (store : AdminSessionStore) (id : SessionId) : store.Fewer (store.delete id) :=
  ⟨List.filter_sublist, rfl⟩

theorem Fewer.trans {last : AdminSessionStore} (first : store.Fewer after) (second : after.Fewer last) : store.Fewer last :=
  ⟨second.held.trans first.held, second.objects.trans first.objects⟩

theorem fewer_makeRoom (store : AdminSessionStore) (now : Int) : store.Fewer (store.makeRoom options now) := by
  unfold makeRoom
  split
  · split
    · exact fewer_delete store _
    · exact ⟨List.Sublist.refl _, rfl⟩
  · exact ⟨List.Sublist.refl _, rfl⟩

/-- What a new session is set beside. -/
theorem fewer_room (options : AdminSessionStoreOptions) (store : AdminSessionStore) (pruned now : Int) :
    store.Fewer ((store.prune options pruned).makeRoom options now) := by
  have kept : store.Fewer (store.prune options pruned) := ⟨List.filter_sublist, rfl⟩
  exact kept.trans (fewer_makeRoom _ now)

theorem oldest_held (named : ∀ id session, store.objects id = some session → session.id = id)
    (found : store.oldest now = some session) : session.id ∈ store.held := by
  have member : session ∈ (store.held.filterMap store.objects).mergeSort fun a b => decide (a.lastSeenAt ≤ b.lastSeenAt) := by
    unfold oldest at found
    dsimp only at found
    split at found
    · rename_i first
      rw [← Option.some.inj found]
      exact List.mem_of_find?_eq_some first
    · exact List.mem_of_head? found
  obtain ⟨id, inside, object⟩ := List.mem_filterMap.mp (List.mem_mergeSort.mp member)
  rw [named id session object]
  exact inside

theorem oldest_some (now : Int) (backed : ∀ id ∈ store.held, store.Known id) (some_ : store.held ≠ []) :
    ∃ session, store.oldest now = some session := by
  obtain ⟨id, inside⟩ := List.exists_mem_of_ne_nil _ some_
  obtain ⟨session, object⟩ := backed id inside
  have member : session ∈ (store.held.filterMap store.objects).mergeSort fun a b => decide (a.lastSeenAt ≤ b.lastSeenAt) :=
    List.mem_mergeSort.mpr (List.mem_filterMap.mpr ⟨id, inside, object⟩)
  unfold oldest
  dsimp only
  generalize (store.held.filterMap store.objects).mergeSort (fun a b => decide (a.lastSeenAt ≤ b.lastSeenAt)) = byAge at member
  cases byAge with
  | nil => nomatch member
  | cons first rest =>
    cases (first :: rest).find? fun session => !isElevated session now with
    | some found => exact ⟨found, rfl⟩
    | none => exact ⟨first, rfl⟩

theorem resolve_cases (options : AdminSessionStoreOptions) (store : AdminSessionStore) (cookie : Option SessionId)
    (login peerAddress : String) (now : Int) :
    (∃ id session, cookie = some id ∧ store.get id = some session ∧ isExpired options session now = false ∧
      session.login = login ∧ session.peerAddress = peerAddress ∧
      store.resolve options cookie login peerAddress now =
        (.ok { session with lastSeenAt := now }, store.write { session with lastSeenAt := now })) ∨
    ∃ resolution after, store.resolve options cookie login peerAddress now = (resolution, after) ∧ store.Fewer after ∧
      ∀ session, resolution ≠ .ok session := by
  have stays : store.Fewer store := ⟨List.Sublist.refl _, rfl⟩
  cases cookie with
  | none => exact Or.inr ⟨_, _, rfl, stays, nofun⟩
  | some id =>
    unfold resolve
    cases got : store.get id with
    | none => exact Or.inr ⟨.missing, store, by simp only [got], stays, nofun⟩
    | some session =>
      simp only [got]
      split_ifs with old bound
      · exact Or.inr ⟨_, _, rfl, fewer_delete store id, nofun⟩
      · exact Or.inr ⟨_, _, rfl, fewer_delete store id, nofun⟩
      · rw [not_or, not_not, not_not] at bound
        exact Or.inl ⟨id, session, rfl, got, Bool.not_eq_true _ ▸ old, bound.1, bound.2, rfl⟩

end AdminSessionStore

open AdminSessionStore

/-- Each session object comes from the creation at the end of its line, and was last seen at its line's last use; the
map holds only the newest of a line. -/
structure Sound (store : AdminSessionStore) (foundings : List Founding) (uses : List Use)
    (lines : SessionId → List SessionId) : Prop where
  backed : ∀ id ∈ store.held, store.Known id
  named : ∀ id session, store.objects id = some session → session.id = id
  once : store.held.Nodup
  origin : ∀ id session, store.objects id = some session → ∃ founding ∈ foundings,
    (lines id).getLast? = some founding.id ∧ founding.login = session.login ∧
      founding.peerAddress = session.peerAddress ∧ founding.time = session.createdAt
  last : ∀ id session, store.objects id = some session →
    ∃ use, uses.find? (fun use => decide (use.id ∈ lines id)) = some use ∧ use.time = session.lastSeenAt
  own : ∀ id, store.Known id → id ∈ lines id
  line : ∀ id other, other ∈ lines id → store.Known other ∧ store.Known id
  tip : ∀ id ∈ store.held, ∀ other, id ∈ lines other → other = id
  seen : ∀ use ∈ uses, store.Known use.id

namespace Sound

variable (sound : Sound store foundings uses lines)

include sound

theorem fewer (less : store.Fewer after) : Sound after foundings uses lines := by
  have known (id : SessionId) : after.Known id ↔ store.Known id := by
    unfold Known
    rw [less.objects]
  exact {
    backed := fun id member => (known id).mpr (sound.backed id (less.held.subset member))
    named := fun id session object => sound.named id session (less.objects ▸ object)
    once := sound.once.sublist less.held
    origin := fun id session object => sound.origin id session (less.objects ▸ object)
    last := fun id session object => sound.last id session (less.objects ▸ object)
    own := fun id object => sound.own id ((known id).mp object)
    line := fun id other member => ⟨(known other).mpr (sound.line id other member).1, (known id).mpr (sound.line id other member).2⟩
    tip := fun id member => sound.tip id (less.held.subset member)
    seen := fun use member => (known use.id).mpr (sound.seen use member) }

/-- A session object's elevation written in place. -/
theorem elevation (object : store.objects id = some session) (elevatedUntil : Option Int) :
    Sound (store.write { session with elevatedUntil := elevatedUntil }) foundings uses lines := by
  have same := sound.named id session object
  have cases_ (other : SessionId) (holder : AdminSession)
      (found : (store.write { session with elevatedUntil := elevatedUntil }).objects other = some holder) :
      ∃ was elevation, store.objects other = some was ∧ holder = { was with elevatedUntil := elevation } := by
    rw [write_objects] at found
    split at found
    · rename_i here
      have there : other = id := here.trans same
      rw [there]
      exact ⟨session, elevatedUntil, object, (Option.some.inj found).symm⟩
    · exact ⟨holder, holder.elevatedUntil, found, rfl⟩
  have known (other : SessionId) (known : (store.write { session with elevatedUntil := elevatedUntil }).Known other) :
      store.Known other := by
    obtain ⟨holder, found⟩ := known
    obtain ⟨was, _, before, _⟩ := cases_ other holder found
    exact ⟨was, before⟩
  exact {
    backed := fun other member => known_write (sound.backed other member)
    named := fun other holder found => by
      obtain ⟨was, _, before, rfl⟩ := cases_ other holder found
      exact sound.named other was before
    once := sound.once
    origin := fun other holder found => by
      obtain ⟨was, _, before, rfl⟩ := cases_ other holder found
      exact sound.origin other was before
    last := fun other holder found => by
      obtain ⟨was, _, before, rfl⟩ := cases_ other holder found
      exact sound.last other was before
    own := fun other there => sound.own other (known other there)
    line := fun other older member =>
      ⟨known_write (sound.line other older member).1, known_write (sound.line other older member).2⟩
    tip := sound.tip
    seen := fun use member => known_write (sound.seen use member) }

/-- A request let in by a session's cookie. -/
theorem use (held : id ∈ store.held) (object : store.objects id = some session) (now : Int) :
    Sound (store.write { session with lastSeenAt := now }) foundings (⟨session.id, now⟩ :: uses) lines := by
  have same := sound.named id session object
  have cases_ (other : SessionId) (holder : AdminSession)
      (found : (store.write { session with lastSeenAt := now }).objects other = some holder) :
      (other = id ∧ holder = { session with lastSeenAt := now }) ∨ (other ≠ id ∧ store.objects other = some holder) := by
    rw [write_objects] at found
    split at found
    · rename_i here
      exact Or.inl ⟨here.trans same, (Option.some.inj found).symm⟩
    · rename_i away
      exact Or.inr ⟨fun here => away (here.trans same.symm), found⟩
  have known (other : SessionId) (known : (store.write { session with lastSeenAt := now }).Known other) :
      store.Known other := by
    obtain ⟨holder, found⟩ := known
    rcases cases_ other holder found with ⟨rfl, _⟩ | ⟨_, before⟩
    · exact ⟨session, object⟩
    · exact ⟨holder, before⟩
  exact {
    backed := fun other member => known_write (sound.backed other member)
    named := fun other holder found => by
      rcases cases_ other holder found with ⟨rfl, rfl⟩ | ⟨_, before⟩
      · exact same
      · exact sound.named other holder before
    once := sound.once
    origin := fun other holder found => by
      rcases cases_ other holder found with ⟨rfl, rfl⟩ | ⟨_, before⟩
      · exact sound.origin other session object
      · exact sound.origin other holder before
    last := fun other holder found => by
      rcases cases_ other holder found with ⟨rfl, rfl⟩ | ⟨away, before⟩
      · have mine := sound.own other ⟨session, object⟩
        refine ⟨⟨session.id, now⟩, ?_, rfl⟩
        rw [List.find?_cons_of_pos (by rw [same]; exact decide_eq_true mine)]
      · obtain ⟨use, found, time⟩ := sound.last other holder before
        refine ⟨use, ?_, time⟩
        rw [List.find?_cons_of_neg]
        · exact found
        · intro mine
          rw [decide_eq_true_iff, same] at mine
          exact away (sound.tip id held other mine)
    own := fun other there => sound.own other (known other there)
    line := fun other older member =>
      ⟨known_write (sound.line other older member).1, known_write (sound.line other older member).2⟩
    tip := sound.tip
    seen := fun use member => by
      rcases List.mem_cons.mp member with rfl | old
      · rw [same]
        exact known_write ⟨session, object⟩
      · exact known_write (sound.seen use old) }

theorem unlined (fresh : store.objects id = none) (other : SessionId) : id ∉ lines other := by
  intro member
  obtain ⟨session, object⟩ := (sound.line other id member).1
  rw [fresh] at object
  nomatch object

/-- A session with a new id set into the map, its line a new one or an old one carried on. -/
theorem set (session : AdminSession) {founded : List Founding} {used : List Use} (line : List SessionId) (fresh : store.objects session.id = none)
    (wider : ∀ founding ∈ foundings, founding ∈ founded)
    (origin : ∃ founding ∈ founded, (session.id :: line).getLast? = some founding.id ∧ founding.login = session.login ∧
      founding.peerAddress = session.peerAddress ∧ founding.time = session.createdAt)
    (last : ∃ use, used.find? (fun use => decide (use.id ∈ session.id :: line)) = some use ∧ use.time = session.lastSeenAt)
    (lasts : ∀ other, other ≠ session.id → used.find? (fun use => decide (use.id ∈ lines other)) =
      uses.find? (fun use => decide (use.id ∈ lines other)))
    (older : ∀ other ∈ line, store.Known other) (passed : ∀ other ∈ line, other ∉ store.held)
    (seen : ∀ use ∈ used, use.id = session.id ∨ use ∈ uses) :
    Sound (store.set session) founded used (Function.update lines session.id (session.id :: line)) := by
  have known (other : SessionId) (known : store.Known other) : (store.set session).Known other := known_write known
  have mine : (store.set session).Known session.id := ⟨session, by
    show (store.write session).objects session.id = some session
    rw [write_objects, if_pos rfl]⟩
  have cases_ (other : SessionId) (holder : AdminSession) (found : (store.set session).objects other = some holder) :
      (other = session.id ∧ holder = session) ∨ (other ≠ session.id ∧ store.objects other = some holder) := by
    have read := (write_objects store session other).symm.trans found
    split at read
    · exact Or.inl ⟨‹_›, (Option.some.inj read).symm⟩
    · exact Or.inr ⟨‹_›, read⟩
  have absent : session.id ∉ store.held := by
    intro member
    obtain ⟨holder, object⟩ := sound.backed _ member
    rw [fresh] at object
    nomatch object
  exact {
    backed := fun other member => by
      rcases List.mem_append.mp member with old | new
      · exact known other (sound.backed other old)
      · rw [List.mem_singleton.mp new]
        exact mine
    named := fun other holder found => by
      rcases cases_ other holder found with ⟨rfl, rfl⟩ | ⟨_, before⟩
      · rfl
      · exact sound.named other holder before
    once := by
      show (store.held ++ [session.id]).Nodup
      rw [List.nodup_append]
      refine ⟨sound.once, List.nodup_singleton _, fun one old other new => ?_⟩
      rw [List.mem_singleton.mp new]
      rintro rfl
      exact absent old
    origin := fun other holder found => by
      rcases cases_ other holder found with ⟨rfl, rfl⟩ | ⟨away, before⟩
      · rw [Function.update_self]
        exact origin
      · rw [Function.update_of_ne away]
        obtain ⟨founding, member, rest⟩ := sound.origin other holder before
        exact ⟨founding, wider founding member, rest⟩
    last := fun other holder found => by
      rcases cases_ other holder found with ⟨rfl, rfl⟩ | ⟨away, before⟩
      · rw [Function.update_self]
        exact last
      · rw [Function.update_of_ne away, lasts other away]
        exact sound.last other holder before
    own := fun other there => by
      obtain ⟨holder, found⟩ := there
      rcases cases_ other holder found with ⟨rfl, rfl⟩ | ⟨away, before⟩
      · rw [Function.update_self]
        exact List.mem_cons_self
      · rw [Function.update_of_ne away]
        exact sound.own other ⟨holder, before⟩
    line := fun other member_ inside => by
      by_cases here : other = session.id
      · rw [here, Function.update_self] at inside
        rw [here]
        refine ⟨?_, mine⟩
        rcases List.mem_cons.mp inside with rfl | before
        · exact mine
        · exact known member_ (older member_ before)
      · rw [Function.update_of_ne here] at inside
        obtain ⟨one, two⟩ := sound.line other member_ inside
        exact ⟨known _ one, known _ two⟩
    tip := fun top member other inside => by
      by_cases here : other = session.id
      · rw [here, Function.update_self] at inside
        rcases List.mem_cons.mp inside with rfl | before
        · exact here
        · rcases List.mem_append.mp member with old | new
          · exact absurd old (passed top before)
          · rw [here, List.mem_singleton.mp new]
      · rw [Function.update_of_ne here] at inside
        rcases List.mem_append.mp member with old | new
        · exact sound.tip top old other inside
        · rw [List.mem_singleton.mp new] at inside
          exact absurd inside (sound.unlined fresh other)
    seen := fun use member => by
      rcases seen use member with new | old
      · rw [new]
        exact mine
      · exact known _ (sound.seen use old) }

/-- A session created. -/
theorem create (fresh : store.objects id = none) (binding : SessionBinding) (pruned now : Int) :
    Sound (store.create options binding pruned now id).1
      (foundings ++ [⟨id, binding.login, binding.peerAddress, now⟩]) (⟨id, now⟩ :: uses)
      (Function.update lines id [id]) := by
  have room := sound.fewer (fewer_room options store pruned now)
  have fresh_ : ((store.prune options pruned).makeRoom options now).objects id = none := by
    rw [(fewer_room options store pruned now).objects]
    exact fresh
  refine room.set (store.create options binding pruned now id).2 [] fresh_
    (fun _ member => List.mem_append_left _ member) ?_ ?_ (fun other away => ?_) (fun _ member => (nomatch member))
    (fun _ member => (nomatch member)) (fun use member => ?_)
  · exact ⟨_, List.mem_append_right _ (List.mem_singleton.mpr rfl), rfl, rfl, rfl, rfl⟩
  · refine ⟨⟨id, now⟩, ?_, rfl⟩
    rw [List.find?_cons_of_pos]
    exact decide_eq_true List.mem_cons_self
  · rw [List.find?_cons_of_neg]
    intro inside
    exact sound.unlined fresh other (of_decide_eq_true inside)
  · rcases List.mem_cons.mp member with rfl | old
    · exact Or.inl rfl
    · exact Or.inr old

/-- A session renewed under a new id. -/
theorem rotate (object : store.objects id = some session) {new : SessionId} (fresh : store.objects new = none) :
    Sound (store.rotate session new).1 foundings uses (Function.update lines new (new :: lines id)) := by
  have same := sound.named id session object
  have less := fewer_delete store session.id
  have mine := sound.own id ⟨session, object⟩
  refine (sound.fewer less).set (store.rotate session new).2 (lines id) fresh
    (fun _ member => member) ?_ ?_ (fun _ _ => rfl) (fun other member => ?_) (fun other member held => ?_)
    (fun use member => Or.inr member)
  · obtain ⟨founding, member, last, rest⟩ := sound.origin id session object
    have ended : (new :: lines id).getLast? = (lines id).getLast? := by
      rw [List.getLast?_cons, last]
      rfl
    exact ⟨founding, member, ended.trans last, rest⟩
  · obtain ⟨use, found, time⟩ := sound.last id session object
    refine ⟨use, ?_, time⟩
    rw [← found]
    refine List.find?_congr fun use member => ?_
    have other : use.id ≠ new := by
      intro here
      obtain ⟨holder, there⟩ := sound.seen use member
      rw [here, fresh] at there
      nomatch there
    exact decide_eq_decide.mpr (List.mem_cons.trans (or_iff_right other))
  · exact (sound.line id other member).1
  · have held_ := List.mem_filter.mp held
    have top := sound.tip other held_.1 id member
    rw [← top, same] at held_
    simp at held_

end Sound

/-- No session that has ended, nor one renewed from it, is in the map, and the map is not over its limit. -/
structure Closed (options : AdminSessionStoreOptions) (store : AdminSessionStore) (spent : List SessionId) : Prop where
  out : ∀ id ∈ spent, id ∉ store.held
  known : ∀ id ∈ spent, store.Known id
  few : store.held.length ≤ options.maxSessions

theorem room_length (sound : Sound store foundings uses lines) (few : store.held.length ≤ options.maxSessions)
    (pruned now : Int) : ((store.prune options pruned).makeRoom options now).held.length < options.maxSessions := by
  have less : store.Fewer (store.prune options pruned) := ⟨List.filter_sublist, rfl⟩
  have pruned_ := sound.fewer less
  have bound := less.held.length_le
  generalize store.prune options pruned = rest at *
  have positive := options.some_
  unfold makeRoom
  split
  · rename_i full
    have some_ : rest.held ≠ [] := by
      intro empty
      rw [empty, List.length_nil] at full
      omega
    obtain ⟨session, found⟩ := oldest_some now pruned_.backed some_
    have inside := oldest_held pruned_.named found
    rw [found]
    have shorter : (rest.held.filter (· != session.id)).length < rest.held.length :=
      List.length_filter_lt_length_iff_exists.mpr ⟨session.id, inside, by simp⟩
    show (rest.held.filter (· != session.id)).length < options.maxSessions
    omega
  · omega

/-- The session a request carries. -/
def Stage.carries : Stage → Option SessionId
  | .starting _ _ => none
  | .authenticated id | .elevating id | .accepted id | .loggingOut id => some id

namespace World

/-- The sessions of a world are sound, and those its requests carry are known. -/
structure Inv (world : World) : Prop where
  sound : Sound world.store world.foundings world.uses world.lines
  carried : ∀ request stage, world.requests request = some stage → ∀ id, stage.carries = some id → world.store.Known id

/-- A step of the world that keeps what is to be kept. -/
def Onward (options : AdminSessionStoreOptions) (world after : World) : Prop :=
  after.Inv ∧ (Closed options world.store world.spent → Closed options after.store after.spent)

theorem Onward.trans {world middle after : World} (first : Onward options world middle)
    (second : middle.Inv → Onward options middle after) : Onward options world after :=
  ⟨(second first.1).1, fun closed => (second first.1).2 (first.2 closed)⟩

variable {world : World} (inv : world.Inv)

include inv

theorem onward_stay : Onward options world world := ⟨inv, id⟩

theorem onward_setRequest (request : Nat) {stage : Option Stage}
    (known : ∀ new, stage = some new → ∀ id, new.carries = some id → world.store.Known id) :
    Onward options world (world.setRequest request stage) := by
  refine ⟨⟨inv.sound, fun other carried there => ?_⟩, id⟩
  simp only [setRequest, Function.update_apply] at there
  split at there
  · exact known carried there
  · exact inv.carried other carried there

theorem onward_withStore (less : world.store.Fewer after) : Onward options world (world.withStore after) := by
  have known (id : SessionId) (known : world.store.Known id) : after.Known id := by
    obtain ⟨session, object⟩ := known
    exact ⟨session, by rw [less.objects]; exact object⟩
  refine ⟨⟨inv.sound.fewer less, fun request stage there id carries => known id (inv.carried request stage there id carries)⟩,
    fun closed => ⟨fun id member held => ?_, fun id member => known id ?_, less.held.length_le.trans closed.few⟩⟩
  · rcases List.mem_append.mp member with old | gone
    · exact closed.out id old (less.held.subset held)
    · exact of_decide_eq_true (List.mem_filter.mp gone).2 held
  · rcases List.mem_append.mp member with old | gone
    · exact closed.known id old
    · exact inv.sound.backed id (List.mem_filter.mp gone).1

theorem onward_loggedOut {id : SessionId} (known : world.store.Known id) : Onward options world (world.loggedOut id) := by
  have less := fewer_delete world.store id
  refine ⟨⟨inv.sound.fewer less, inv.carried⟩, fun closed => ⟨fun other member held => ?_, fun other member => ?_,
    less.held.length_le.trans closed.few⟩⟩
  · rcases List.mem_append.mp member with old | gone
    · exact closed.out other old (less.held.subset held)
    · have kept := (List.mem_filter.mp held).2
      rw [List.mem_singleton.mp gone] at kept
      simp at kept
  · rcases List.mem_append.mp member with old | gone
    · exact closed.known other old
    · rw [List.mem_singleton.mp gone]
      exact known

theorem onward_write (session : AdminSession) (uses : List Use) (sound : Sound (world.store.write session) world.foundings uses world.lines) :
    Onward options world { world with store := world.store.write session, uses := uses } :=
  ⟨⟨sound, fun request stage there id carries => known_write (inv.carried request stage there id carries)⟩,
    fun closed => ⟨closed.out, fun id member => known_write (closed.known id member), closed.few⟩⟩

theorem onward_setElevation (id : SessionId) (elevatedUntil : Option Int) :
    Onward options world (world.setElevation id elevatedUntil) := by
  unfold setElevation
  split
  · rename_i session object
    exact onward_write inv _ _ (inv.sound.elevation object elevatedUntil)
  · exact onward_stay inv

theorem onward_starting (request : Nat) (login peerAddress : String) {store : AdminSessionStore}
    (less : world.store.Fewer store) :
    Onward options world ((world.withStore store).setRequest request (some (.starting login peerAddress))) :=
  (onward_withStore inv less).trans fun inv => onward_setRequest inv request fun new came id carries => by
    rw [← Option.some.inj came] at carries
    nomatch carries

theorem onward_arrive (request : Nat) (cookie : Option SessionId) (login peerAddress : String) (allowNewSession : Bool)
    (now : Int) : Onward options world (world.arrive options request cookie login peerAddress allowNewSession now) := by
  unfold arrive
  rcases resolve_cases options world.store cookie login peerAddress now with
    ⟨id, session, _, got, _, _, _, answer⟩ | ⟨resolution, after, answer, less, refused⟩
  · obtain ⟨held, object⟩ := get_eq_some.mp got
    have same := inv.sound.named id session object
    rw [answer]
    have used : Onward options world ((world.withStore (world.store.write { session with lastSeenAt := now })).used session.id now) := by
      have kept : (world.withStore (world.store.write { session with lastSeenAt := now })).used session.id now =
          { world with store := world.store.write { session with lastSeenAt := now }, uses := ⟨session.id, now⟩ :: world.uses } := by
        have nothing : world.store.held.filter (· ∉ (world.store.write { session with lastSeenAt := now }).held) = [] :=
          List.filter_eq_nil_iff.mpr fun id member gone => of_decide_eq_true gone member
        simp only [withStore, World.used, nothing, List.append_nil]
      rw [kept]
      exact onward_write inv _ _ (inv.sound.use held object now)
    refine used.trans fun inv => onward_setRequest inv request fun new came other carries => ?_
    rw [← Option.some.inj came] at carries
    rw [← Option.some.inj carries]
    exact ⟨{ session with lastSeenAt := now }, by
      show (world.store.write { session with lastSeenAt := now }).objects session.id = _
      rw [write_objects, if_pos rfl]⟩
  · rw [answer]
    cases resolution with
    | ok session => exact absurd rfl (refused session)
    | bindingMismatch => exact onward_starting inv request login peerAddress less
    | missing =>
      dsimp only
      split
      · exact onward_starting inv request login peerAddress less
      · exact onward_withStore inv less
    | expired =>
      dsimp only
      split
      · exact onward_starting inv request login peerAddress less
      · exact onward_withStore inv less

theorem onward_start (request : Nat) (binding : SessionBinding) (pruned now : Int) {id : SessionId}
    (fresh : world.store.objects id = none) : Onward options world (world.start options request binding pruned now id) := by
  have less := fewer_room options world.store pruned now
  have known (other : SessionId) (known : world.store.Known other) :
      (world.store.create options binding pruned now id).1.Known other := by
    refine known_write ?_
    obtain ⟨session, object⟩ := known
    exact ⟨session, by rw [less.objects]; exact object⟩
  have new : (world.store.create options binding pruned now id).1.Known id :=
    ⟨_, (write_objects _ _ _).trans (if_pos rfl)⟩
  have apart (other : SessionId) (there : world.store.Known other) : other ≠ id := by
    rintro rfl
    obtain ⟨session, object⟩ := there
    rw [fresh] at object
    nomatch object
  refine ⟨⟨inv.sound.create fresh binding pruned now, fun other stage there holder carries => ?_⟩, fun closed => ?_⟩
  · simp only [start, setRequest, Function.update_apply] at there
    split at there
    · rw [← Option.some.inj there] at carries
      rw [← Option.some.inj carries]
      exact new
    · exact known holder (inv.carried other stage there holder carries)
  · refine ⟨fun other member held => ?_, fun other member => known other ?_, ?_⟩
    · rcases List.mem_append.mp held with kept | here
      · rcases List.mem_append.mp member with old | gone
        · exact closed.out other old (less.held.subset kept)
        · exact of_decide_eq_true (List.mem_filter.mp gone).2 held
      · rcases List.mem_append.mp member with old | gone
        · exact apart other (closed.known other old) (List.mem_singleton.mp here)
        · exact of_decide_eq_true (List.mem_filter.mp gone).2 held
    · rcases List.mem_append.mp member with old | gone
      · exact closed.known other old
      · exact inv.sound.backed other (List.mem_filter.mp gone).1
    · have room := room_length inv.sound closed.few pruned now
      show (_ ++ [id]).length ≤ options.maxSessions
      rw [List.length_append, List.length_singleton]
      exact room

theorem onward_rotate (options : AdminSessionStoreOptions) (request : Nat) {session : AdminSession} {old id : SessionId}
    (object : world.store.objects old = some session) (fresh : world.store.objects id = none) :
    (world.rotate request session id).Inv ∧ (old ∈ world.store.held → Closed options world.store world.spent →
      Closed options (world.rotate request session id).store (world.rotate request session id).spent) := by
  have same := inv.sound.named old session object
  have less := fewer_delete world.store session.id
  have known (other : SessionId) (known : world.store.Known other) : (world.store.rotate session id).1.Known other :=
    show ((world.store.delete session.id).write _).Known other from known_write known
  have sound := inv.sound.rotate object fresh
  rw [← same] at sound
  refine ⟨⟨sound, fun other stage there holder carries => ?_⟩, fun held closed => ?_⟩
  · simp only [rotate, setRequest, Function.update_apply] at there
    split at there
    · rw [← Option.some.inj there] at carries
      rw [← Option.some.inj carries]
      exact ⟨_, (write_objects _ _ _).trans (if_pos rfl)⟩
    · exact known holder (inv.carried other stage there holder carries)
  · have unspent : session.id ∉ world.spent := fun spent => closed.out _ spent (same ▸ held)
    have spent : (world.rotate request session id).spent = world.spent := if_neg unspent
    rw [spent]
    refine ⟨fun other member held_ => ?_, fun other member => known other (closed.known other member), ?_⟩
    · rcases List.mem_append.mp held_ with kept | here
      · exact closed.out other member (less.held.subset kept)
      · obtain ⟨holder, there⟩ := closed.known other member
        rw [List.mem_singleton.mp here] at there
        exact nomatch fresh.symm.trans there
    · have shorter : (world.store.held.filter (· != session.id)).length < world.store.held.length :=
        List.length_filter_lt_length_iff_exists.mpr ⟨session.id, same ▸ held, by simp⟩
      show (world.store.held.filter (· != session.id) ++ [id]).length ≤ options.maxSessions
      rw [List.length_append, List.length_singleton]
      exact shorter.trans_le closed.few

omit inv in
theorem step_cases {event : SessionEvent} {after : World} (committed : world.step options event = .ok after) :
    world.next options event = some after := by
  unfold step at committed
  split at committed
  · rename_i came
    rw [came, Except.ok.inj committed]
  · nomatch committed

/-- Every step keeps the sessions sound, and an end and the limit too when a session renewed is still held. -/
theorem next_kept {event : SessionEvent} {after : World} (came : world.next options event = some after) :
    after.Inv ∧ (world.StillHeld event → Closed options world.store world.spent → Closed options after.store after.spent) := by
  have onward (kept : Onward options world after) : after.Inv ∧ (world.StillHeld event →
      Closed options world.store world.spent → Closed options after.store after.spent) := ⟨kept.1, fun _ => kept.2⟩
  -- A request moved on with the session it carries.
  have moved {middle : World} (request : Nat) (stage : Stage) {new : Stage} {id : SessionId}
      (there : middle.requests request = some stage) (carried : stage.carries = some id) (carries : new.carries = some id)
      (inv : middle.Inv) : Onward options middle (middle.setRequest request (some new)) :=
    onward_setRequest inv request fun other came holder mine => by
      rw [← Option.some.inj came, carries] at mine
      rw [← Option.some.inj mine]
      exact inv.carried request stage there id carried
  have ended {middle : World} (request : Nat) (inv : middle.Inv) : Onward options middle (middle.setRequest request none) :=
    onward_setRequest inv request fun _ came => nomatch came
  have elevated (id : SessionId) (elevatedUntil : Option Int) :
      (world.setElevation id elevatedUntil).requests = world.requests := by
    unfold setElevation
    split <;> rfl
  cases event with
  | arrive request cookie login peerAddress allowNewSession now =>
    simp only [next] at came
    split at came
    · obtain rfl := Option.some.inj came
      exact onward (onward_arrive inv request cookie login peerAddress allowNewSession now)
    · nomatch came
  | deny request =>
    simp only [next] at came
    split at came
    · obtain rfl := Option.some.inj came
      exact onward (ended request inv)
    · nomatch came
  | start request name node pruned now id =>
    simp only [next] at came
    split at came
    · rename_i fresh
      obtain rfl := Option.some.inj came
      exact onward (onward_start inv request _ pruned now fresh)
    · nomatch came
  | finish request =>
    simp only [next] at came
    split at came
    · obtain rfl := Option.some.inj came
      exact onward (ended request inv)
    · nomatch came
  | elevate request =>
    simp only [next] at came
    split at came
    · rename_i there
      obtain rfl := Option.some.inj came
      exact onward (moved request _ there rfl rfl inv)
    · nomatch came
  | dropElevation request =>
    simp only [next] at came
    split at came
    · obtain rfl := Option.some.inj came
      exact onward (onward_setElevation inv _ none)
    · nomatch came
  | refuse request locked =>
    simp only [next] at came
    split at came
    · rename_i session there
      obtain rfl := Option.some.inj came
      have lowered : Onward options world (if locked then world.setElevation session none else world) := by
        split
        · exact onward_setElevation inv _ none
        · exact onward_stay inv
      refine onward (lowered.trans fun inv => moved request (.elevating session) ?_ rfl rfl inv)
      split
      · rw [elevated]
        exact there
      · exact there
    · nomatch came
  | accept request elevatedUntil =>
    simp only [next] at came
    split at came
    · rename_i session there
      obtain rfl := Option.some.inj came
      refine onward ((onward_setElevation inv session (some elevatedUntil)).trans
        fun inv => moved request (.elevating session) ?_ rfl rfl inv)
      rw [elevated]
      exact there
    · nomatch came
  | rotate request id =>
    simp only [next] at came
    split at came
    · rename_i old there
      split at came
      · rename_i session object fresh
        obtain rfl := Option.some.inj came
        obtain ⟨kept, closed⟩ := onward_rotate inv options request object fresh
        exact ⟨kept, fun still => closed (still old there)⟩
      · nomatch came
    · nomatch came
  | logout request =>
    simp only [next] at came
    split at came
    · rename_i there
      obtain rfl := Option.some.inj came
      exact onward (moved request _ there rfl rfl inv)
    · nomatch came
  | audited request written =>
    simp only [next] at came
    split at came
    · rename_i session there
      obtain rfl := Option.some.inj came
      have known := inv.carried request _ there session rfl
      have closed : Onward options world (if written then world.loggedOut session else world) := by
        split
        · exact onward_loggedOut inv known
        · exact onward_stay inv
      exact onward (closed.trans fun inv => ended request inv)
    · nomatch came
  | stop =>
    obtain rfl := Option.some.inj came
    exact onward (onward_withStore inv ⟨List.nil_sublist _, rfl⟩)

omit inv in
theorem inv_start : Inv {} where
  sound := {
    backed := fun _ member => (nomatch member)
    named := fun _ _ object => (nomatch object)
    once := List.nodup_nil
    origin := fun _ _ object => (nomatch object)
    last := fun _ _ object => (nomatch object)
    own := fun _ ⟨_, object⟩ => (nomatch object)
    line := fun _ _ member => (nomatch member)
    tip := fun _ member => (nomatch member)
    seen := fun _ member => (nomatch member) }
  carried := fun _ _ there => nomatch there

/-- A request with a session's cookie is let in, in this state. -/
def LetIn (options : AdminSessionStoreOptions) (world : World) (id : SessionId) (login peerAddress : String) (now : Int) : Prop :=
  ∃ session, (world.store.resolve options (some id) login peerAddress now).1 = .ok session

omit inv in
theorem letIn_cases {id : SessionId} {login peerAddress : String} {now : Int} (let_ : world.LetIn options id login peerAddress now) :
    ∃ session, world.store.get id = some session ∧ isExpired options session now = false ∧ session.login = login ∧
      session.peerAddress = peerAddress := by
  obtain ⟨session, ok⟩ := let_
  rcases resolve_cases options world.store (some id) login peerAddress now with
    ⟨_, holder, same, got, young, login_, peer, _⟩ | ⟨_, _, answer, _, refused⟩
  · rw [← Option.some.inj same] at got
    exact ⟨holder, got, young, login_, peer⟩
  · rw [answer] at ok
    exact absurd ok (refused session)

/-- A request let in by a cookie comes from the login and the address that created the session at the end of its line,
within the absolute limit of that creation and the idle limit of the line's last use. -/
theorem let_in_bound {id : SessionId} {login peerAddress : String} {now : Int}
    (let_ : world.LetIn options id login peerAddress now) :
    (∃ founding ∈ world.foundings, (world.lines id).getLast? = some founding.id ∧ founding.login = login ∧
      founding.peerAddress = peerAddress ∧ now - founding.time ≤ options.absoluteTtlMs) ∧
    ∃ use, world.uses.find? (fun use => decide (use.id ∈ world.lines id)) = some use ∧ now - use.time ≤ options.idleTtlMs := by
  obtain ⟨session, got, young, rfl, rfl⟩ := letIn_cases let_
  have object := (get_eq_some.mp got).2
  rw [isExpired, Bool.or_eq_false_iff, decide_eq_false_iff_not, decide_eq_false_iff_not, not_lt, not_lt] at young
  obtain ⟨founding, member, line, login, peer, time⟩ := inv.sound.origin id session object
  obtain ⟨use, found, seen⟩ := inv.sound.last id session object
  refine ⟨⟨founding, member, line, login, peer, ?_⟩, use, found, ?_⟩
  · rw [time]
    exact young.2
  · rw [seen]
    exact young.1

/-- What is to hold of the sessions in a state. -/
structure Ended (options : AdminSessionStoreOptions) (world : World) : Prop where
  stay : ∀ id ∈ world.spent, ∀ login peerAddress now, ¬ world.LetIn options id login peerAddress now
  bound : ∀ id login peerAddress now, world.LetIn options id login peerAddress now →
    (∃ founding ∈ world.foundings, (world.lines id).getLast? = some founding.id ∧ founding.login = login ∧
      founding.peerAddress = peerAddress ∧ now - founding.time ≤ options.absoluteTtlMs) ∧
    ∃ use, world.uses.find? (fun use => decide (use.id ∈ world.lines id)) = some use ∧ now - use.time ≤ options.idleTtlMs
  few : world.store.held.length ≤ options.maxSessions

omit inv in
/-- Where a session is renewed only while the store has it, one that has ended lets no request in again. -/
theorem ended_stay (reach : Reach (step options) StillHeld {} world) : world.Ended options := by
  have start : Inv {} ∧ Closed options {} [] :=
    ⟨inv_start, fun _ member => (nomatch member), fun _ member => (nomatch member), Nat.zero_le _⟩
  obtain ⟨inv, closed⟩ := reach.invariant (I := fun world => world.Inv ∧ Closed options world.store world.spent) start
    fun before event after kept still committed => by
      obtain ⟨inv, closed⟩ := next_kept kept.1 (step_cases committed)
      exact ⟨inv, closed still kept.2⟩
  refine ⟨fun id spent login peerAddress now let_ => ?_, fun id login peerAddress now => let_in_bound inv, closed.few⟩
  obtain ⟨session, got, _⟩ := letIn_cases let_
  exact closed.out id spent (get_eq_some.mp got).1

def thirtyMinutes : AdminSessionStoreOptions where
  idleTtlMs := 1800000
  absoluteTtlMs := 43200000

/-- A sign-in from the operator's own device. -/
def signIn : List SessionEvent :=
  [.arrive 0 none "op@example.com" "100.64.0.1" true 0, .start 0 "Op" "laptop" 0 0 1, .finish 0]

omit inv in
/-- A session signed in, elevated and then logged out. -/
theorem loggedOut_ended : ∃ world, Reach (step thirtyMinutes) StillHeld {} world ∧ world.spent = [2] ∧
    world.Ended thirtyMinutes := by
  have ran : runAll (step thirtyMinutes) {} (signIn ++ [.arrive 1 (some 1) "op@example.com" "100.64.0.1" false 1000,
    .elevate 1, .accept 1 901000]) = .ok _ := rfl
  have accepted : Reach (step thirtyMinutes) StillHeld {} _ := reach_of_runAll ran fun _ event member => by
    simp only [signIn, List.cons_append, List.nil_append, List.mem_cons, List.not_mem_nil, or_false] at member
    obtain rfl | rfl | rfl | rfl | rfl | rfl := member <;> exact trivial
  have renewed := accepted.after (.rotate 1 2) (fun session there => by
    rw [← Stage.accepted.inj (Option.some.inj there)]
    exact List.mem_singleton.mpr rfl) rfl
  have asked := renewed.after (.logout 1) trivial rfl
  have out := asked.after (.audited 1 true) trivial rfl
  exact ⟨_, out, rfl, ended_stay out⟩

omit inv in
/-- A logout while a code is being checked: the session it ended is renewed, and its new cookie lets a request in. -/
theorem renewed_after_logout : ∃ world, Reach (step thirtyMinutes) anyStep {} world ∧ world.spent = [1, 2] ∧
    world.store.held = [2] ∧ world.LetIn thirtyMinutes 2 "op@example.com" "100.64.0.1" 4000 := by
  obtain ⟨world, reach, passes⟩ := exists_reach (step thirtyMinutes) {}
    (fun world => decide (world.spent = [1, 2] ∧ world.store.held = [2]) &&
      match (world.store.resolve thirtyMinutes (some 2) "op@example.com" "100.64.0.1" 4000).1 with
      | .ok _ => true
      | _ => false)
    (signIn ++ [.arrive 1 (some 1) "op@example.com" "100.64.0.1" false 1000, .elevate 1,
      .arrive 2 (some 1) "op@example.com" "100.64.0.1" false 2000, .logout 2, .audited 2 true, .accept 1 903000,
      .rotate 1 2]) (by decide +kernel)
  rw [Bool.and_eq_true] at passes
  obtain ⟨spent, held⟩ := of_decide_eq_true passes.1
  refine ⟨world, reach, spent, held, ?_⟩
  unfold LetIn
  cases resolution : (world.store.resolve thirtyMinutes (some 2) "op@example.com" "100.64.0.1" 4000).1 with
  | ok session => exact ⟨session, rfl⟩
  | missing => rw [resolution] at passes; nomatch passes.2
  | expired => rw [resolution] at passes; nomatch passes.2
  | bindingMismatch => rw [resolution] at passes; nomatch passes.2

end World

end LetterIRL.Admin.Sessions
