import LetterIRL.Uploads.TempImages

namespace LetterIRL.Uploads.TempImages

open Lib

/-! Whatever the interleaving, a photo that stands is the one in the bucket, if no delete runs late. -/

variable {digest : List Char → List Char} {world after : World}

/-- The object a delete was decided on: nothing put with its number is still to expire. -/
def World.Spent (world : World) (key : ObjectKey) (seen : Nat) : Prop :=
  seen < world.puts ∧ ∀ object, world.standing key = some object → object.put = seen → object.expiresAt ≤ world.now

/-- What a call under way holds on to. -/
def Call.Sound (world : World) : Call → Prop
  | .storing _ _ expiresAt => expiresAt ≤ world.now + TTL_MS
  | .getting .. | .deleting .. => True
  | .fetched key started object readAt => (∀ photo, started = some photo → object = photo) ∧ readAt ≤ world.now ∧
      object.put < world.puts ∧ ∀ other, world.standing key = some other → other.put = object.put → other = object
  | .dropping key started seen => started = none ∧ world.Spent key seen
  | .listing startedAt _ => startedAt ≤ world.now
  | .clearing startedAt queue _ _ => startedAt ≤ world.now ∧ ∀ entry ∈ queue, world.Spent entry.1 entry.2

/-- A get answered with the object it began with, and with none that had expired when it was read. -/
structure Answer.Good (answer : Answer) : Prop where
  kept : ∀ photo, answer.started = some photo → answer.result = some photo.body
  fresh : ∀ body, answer.result = some body → ∃ object readAt, answer.read = some (object, readAt) ∧ object.body = body ∧
    readAt < object.expiresAt

/-- The bucket, without the calls. -/
structure World.Placed (world : World) : Prop where
  stands : ∀ key object, world.objects key = some object → world.standing key = some object
  numbered : ∀ key object, world.standing key = some object → object.put < world.puts
  timely : ∀ key object, world.standing key = some object →
    object.expiresAt ≤ object.lastModified + TTL_MS ∧ object.lastModified ≤ world.now
  kept : ∀ key object, world.standing key = some object → world.now < object.expiresAt → world.objects key = some object

structure World.Inv (world : World) : Prop extends world.Placed where
  calls : ∀ id call, world.calls id = some call → call.Sound world
  answered : ∀ answer ∈ world.answers, answer.Good

/-- What a step may change under the calls of others: the clock goes on, and what stands is what stood, or put since. -/
structure World.Later (world after : World) : Prop where
  now : world.now ≤ after.now
  puts : world.puts ≤ after.puts
  standing : ∀ key object, after.standing key = some object → world.standing key = some object ∨ world.puts ≤ object.put

theorem World.Later.refl (world : World) : world.Later world := ⟨le_rfl, le_rfl, fun _ _ stands => .inl stands⟩

theorem World.Spent.later {key : ObjectKey} {seen : Nat} (spent : world.Spent key seen) (later : world.Later after) :
    after.Spent key seen := by
  refine ⟨spent.1.trans_le later.puts, fun object stands same => ?_⟩
  rcases later.standing key object stands with old | new
  · exact (spent.2 object old same).trans later.now
  · have below := spent.1
    omega

theorem Call.Sound.later {call : Call} (sound : call.Sound world) (later : world.Later after) : call.Sound after := by
  have now := later.now
  cases call with
  | storing key body expiresAt => exact sound.trans (Nat.add_le_add_right now _)
  | getting key started => trivial
  | deleting key issued => trivial
  | fetched key started object readAt =>
    obtain ⟨same, read, below, once⟩ := sound
    refine ⟨same, read.trans now, below.trans_le later.puts, fun other stands sameNumber => ?_⟩
    rcases later.standing key other stands with old | new
    · exact once other old sameNumber
    · omega
  | dropping key started seen => exact ⟨sound.1, sound.2.later later⟩
  | listing startedAt folders => exact sound.trans now
  | clearing startedAt queue more folders =>
    exact ⟨sound.1.trans now, fun entry member => (sound.2 entry member).later later⟩

/-- A step that leaves the bucket placed, and replaces the call it is of by a sound one. -/
theorem World.Inv.moved {id : Nat} {call : Option Call} {middle : World} (inv : world.Inv) (later : world.Later middle)
    (placed : middle.Placed) (same : middle.calls = world.calls) (answers : middle.answers = world.answers)
    (sound : ∀ new, call = some new → new.Sound middle) : (middle.setCall id call).Inv where
  toPlaced := ⟨placed.stands, placed.numbered, placed.timely, placed.kept⟩
  calls := fun other held there => by
    simp only [setCall, Function.update_apply, same] at there
    have kept : held.Sound middle := by
      split at there
      · exact sound held there
      · exact (inv.calls other held there).later later
    exact kept.later ⟨le_rfl, le_rfl, fun _ _ stands => .inl stands⟩
  answered := fun answer member => inv.answered answer (by rw [← answers]; exact member)

theorem World.Inv.answer {id : Nat} {answer : Answer} {middle : World} (inv : world.Inv) (later : world.Later middle)
    (placed : middle.Placed) (same : middle.calls = world.calls) (answers : middle.answers = world.answers)
    (good : answer.Good) : (middle.answer id answer).Inv := by
  have moved : (middle.setCall id none).Inv := inv.moved later placed same answers fun _ new => (nomatch new)
  refine ⟨⟨moved.stands, moved.numbered, moved.timely, moved.kept⟩, fun other held there => ?_, fun given member => ?_⟩
  · exact (moved.calls other held there).later ⟨le_rfl, le_rfl, fun _ _ stands => .inl stands⟩
  · rcases List.mem_append.mp member with old | new
    · exact inv.answered given (by rw [← answers]; exact old)
    · rw [List.mem_singleton.mp new]
      exact good

theorem World.Placed.put (placed : world.Placed) (key : ObjectKey) (body : Buffer) {expiresAt : Time}
    (timely : expiresAt ≤ world.now + TTL_MS) : (world.putObject key body expiresAt).Placed := by
  refine ⟨fun other object there => ?_, fun other object there => ?_, fun other object there => ?_, fun other object there => ?_⟩
  · simp only [World.putObject, Function.update_apply] at there ⊢
    split at there
    · rename_i same
      rwa [if_pos same]
    · rename_i away
      rw [if_neg away]
      exact placed.stands other object there
  · simp only [World.putObject, Function.update_apply] at there ⊢
    split at there
    · rw [← Option.some.inj there]
      exact Nat.lt_succ_self _
    · exact (placed.numbered other object there).trans (Nat.lt_succ_self _)
  · simp only [World.putObject, Function.update_apply] at there ⊢
    split at there
    · rw [← Option.some.inj there]
      exact ⟨timely, le_rfl⟩
    · exact placed.timely other object there
  · intro live
    simp only [World.putObject, Function.update_apply] at there live ⊢
    split at there
    · rename_i same
      rwa [if_pos same]
    · rename_i away
      rw [if_neg away]
      exact placed.kept other object there live

theorem World.later_put (world : World) (key : ObjectKey) (body : Buffer) (expiresAt : Time) :
    world.Later (world.putObject key body expiresAt) := by
  refine ⟨le_rfl, Nat.le_succ _, fun other object there => ?_⟩
  simp only [World.putObject, Function.update_apply] at there
  split at there
  · rw [← Option.some.inj there]
    exact .inr le_rfl
  · exact .inl there

/-- An object is dropped when nothing under its key is still to expire. -/
theorem World.Placed.drop (placed : world.Placed) {key : ObjectKey} (dead : ∀ object, world.standing key = some object →
    object.expiresAt ≤ world.now) : (world.dropObject key).Placed := by
  refine ⟨fun other object there => ?_, placed.numbered, placed.timely, fun other object there live => ?_⟩
  · simp only [World.dropObject, Function.update_apply] at there
    split at there
    · nomatch there
    · exact placed.stands other object there
  · simp only [World.dropObject, Function.update_apply]
    split
    · rename_i same
      rw [same] at there
      exact absurd live (not_lt.mpr (dead object there))
    · exact placed.kept other object there live

/-- What a delete finds under the key is what it was decided on, so it is spent. -/
theorem World.Placed.dead (placed : world.Placed) {key : ObjectKey} {seen : Nat} (spent : world.Spent key seen)
    (found : ∀ object, world.objects key = some object → object.put = seen) (object : StoredObject)
    (stands : world.standing key = some object) : object.expiresAt ≤ world.now := by
  by_contra running
  exact running (spent.2 object stands (found object (placed.kept key object stands (not_le.mp running))))

theorem World.Placed.remove (placed : world.Placed) {key : ObjectKey} {issued : Nat}
    (found : ∀ object, world.objects key = some object → object.put < issued) : (world.removeObject key issued).Placed := by
  have stood (other : ObjectKey) (object : StoredObject)
      (there : (world.removeObject key issued).standing other = some object) :
      world.standing other = some object ∧ (other = key → ¬ object.put < issued) := by
    simp only [World.removeObject, Function.update_apply] at there
    split at there
    · rename_i same
      obtain ⟨stands, since⟩ := Option.filter_eq_some_iff.mp there
      rw [same]
      exact ⟨stands, fun _ => by simpa using since⟩
    · rename_i away
      exact ⟨there, fun same => absurd same away⟩
  refine ⟨fun other object there => ?_, fun other object there => placed.numbered other object (stood other object there).1,
    fun other object there => placed.timely other object (stood other object there).1, fun other object there live => ?_⟩
  · simp only [World.removeObject, World.dropObject, Function.update_apply] at there ⊢
    split at there
    · nomatch there
    · rename_i away
      rw [if_neg away]
      exact placed.stands other object there
  · obtain ⟨stands, since⟩ := stood other object there
    have inBucket := placed.kept other object stands live
    simp only [World.removeObject, World.dropObject, Function.update_apply]
    split
    · rename_i same
      rw [same] at inBucket
      exact absurd (found object inBucket) (since same)
    · exact inBucket

theorem World.later_remove (world : World) (key : ObjectKey) (issued : Nat) : world.Later (world.removeObject key issued) := by
  refine ⟨le_rfl, le_rfl, fun other object there => .inl ?_⟩
  simp only [World.removeObject, Function.update_apply] at there
  split at there
  · rename_i same
    rw [same]
    exact (Option.filter_eq_some_iff.mp there).1
  · exact there

theorem World.Placed.tick (placed : world.Placed) (elapsed : Time) : World.Placed { world with now := world.now + elapsed } :=
  ⟨placed.stands, placed.numbered, fun key object there => ⟨(placed.timely key object there).1,
      (placed.timely key object there).2.trans (Nat.le_add_right _ _)⟩,
    fun key object there live => placed.kept key object there (lt_of_le_of_lt (Nat.le_add_right _ _) live)⟩

/-- What the listing gives the clean-up had expired. -/
theorem World.Placed.stale_spent (placed : world.Placed) {startedAt : Time} (begun : startedAt ≤ world.now)
    {page : List ObjectKey} {entry : ObjectKey × Nat} (member : entry ∈ world.stale startedAt page) :
    world.Spent entry.1 entry.2 := by
  obtain ⟨key, _, found⟩ := List.mem_filterMap.mp member
  obtain ⟨object, there, old⟩ := Option.bind_eq_some_iff.mp found
  split at old
  · nomatch old
  · rename_i past
    obtain rfl := Option.some.inj old
    have stands := placed.stands key object there
    obtain ⟨expires, _⟩ := placed.timely key object stands
    refine ⟨placed.numbered key object stands, fun other stands' _ => ?_⟩
    rw [stands] at stands'
    rw [← Option.some.inj stands']
    exact expires.trans ((not_lt.mp past).trans begun)

theorem afterClear_sound {startedAt : Time} {queue : List (ObjectKey × Nat)} {more : Bool} {folders : List Folder}
    (begun : startedAt ≤ world.now) (spent : ∀ entry ∈ queue, world.Spent entry.1 entry.2) (call : Call)
    (left : afterClear startedAt queue more folders = some call) : call.Sound world := by
  unfold afterClear at left
  split at left
  · unfold nextPage at left
    split at left
    · nomatch left
    · rw [← Option.some.inj left]
      exact begun
  · rw [← Option.some.inj left]
    exact ⟨begun, spent⟩

theorem World.Inv.call {id : Nat} {call : Call} (inv : world.Inv) (sound : call.Sound world) :
    (world.setCall id (some call)).Inv :=
  inv.moved (.refl world) inv.toPlaced rfl rfl fun new same => by
    rw [← Option.some.inj same]
    exact sound

/-- Every step that is not disturbed keeps the bucket, the calls and the answers sound. -/
theorem next_inv {event : Event} (inv : world.Inv) (undisturbed : Undisturbed world event)
    (came : next digest world event = some after) : after.Inv := by
  cases event with
  | tick elapsed =>
    obtain rfl := Option.some.inj came
    have later : world.Later { world with now := world.now + elapsed } :=
      ⟨Nat.le_add_right _ _, le_rfl, fun _ _ stands => .inl stands⟩
    exact ⟨inv.toPlaced.tick elapsed, fun id call there => (inv.calls id call there).later later, inv.answered⟩
  | storeImage id token body =>
    simp only [next] at came
    split at came
    · obtain rfl := Option.some.inj came
      exact inv.call le_rfl
    · nomatch came
  | storeUploadedPhoto id userId body =>
    simp only [next] at came
    split at came
    · obtain rfl := Option.some.inj came
      exact inv.call le_rfl
    · nomatch came
  | put id =>
    simp only [next] at came
    split at came
    · rename_i key body expiresAt there
      obtain rfl := Option.some.inj came
      have timely : expiresAt ≤ world.now + TTL_MS := inv.calls id _ there
      exact inv.moved (world.later_put key body expiresAt) (inv.toPlaced.put key body timely) rfl rfl fun _ new => (nomatch new)
    · nomatch came
  | getImage id token =>
    simp only [next] at came
    split at came
    · obtain rfl := Option.some.inj came
      exact inv.call trivial
    · nomatch came
  | getUploadedPhoto id userId =>
    simp only [next] at came
    split at came
    · obtain rfl := Option.some.inj came
      exact inv.call trivial
    · nomatch came
  | fetch id =>
    simp only [next] at came
    split at came
    · rename_i key started there
      have standing (photo : StoredObject) (began : started = some photo) : world.objects key = some photo := by
        rw [began] at there
        obtain ⟨stands, running⟩ := Option.filter_eq_some_iff.mp (undisturbed key photo there)
        exact inv.kept key photo stands (of_decide_eq_true running)
      split at came
      · rename_i gone
        obtain rfl := Option.some.inj came
        refine inv.answer (.refl world) inv.toPlaced rfl rfl ⟨fun photo began => ?_, fun _ none_ => (nomatch none_)⟩
        have found := standing photo began
        rw [gone] at found
        nomatch found
      · rename_i object found
        obtain rfl := Option.some.inj came
        have stands := inv.stands key object found
        refine inv.call ⟨fun photo began => ?_, le_rfl, inv.numbered key object stands, fun other stands' _ => ?_⟩
        · exact Option.some.inj (found.symm.trans (standing photo began))
        · exact Option.some.inj (stands'.symm.trans stands)
    · nomatch came
  | check id =>
    simp only [next] at came
    split at came
    · rename_i key started object readAt there
      obtain ⟨same, read, below, once⟩ := inv.calls id _ there
      have running (photo : StoredObject) (began : started = some photo) : world.now < object.expiresAt := by
        rw [same photo began]
        rw [began] at there
        exact undisturbed key photo object readAt there
      split at came
      · rename_i expired
        obtain rfl := Option.some.inj came
        refine inv.call ⟨?_, below, fun other stands sameNumber => ?_⟩
        · cases began : started with
          | none => rfl
          | some photo => exact absurd (running photo began) (not_lt.mpr expired)
        · rw [once other stands sameNumber]
          exact expired
      · rename_i fresh
        obtain rfl := Option.some.inj came
        refine inv.answer (.refl world) inv.toPlaced rfl rfl ⟨fun photo began => ?_, fun body given => ?_⟩
        · rw [same photo began]
        · exact ⟨object, readAt, rfl, Option.some.inj given, read.trans_lt (not_le.mp fresh)⟩
    · nomatch came
  | drop id =>
    simp only [next] at came
    split at came
    · rename_i key started seen there
      obtain rfl := Option.some.inj came
      obtain ⟨nothing, spent⟩ := inv.calls id _ there
      have placed := inv.toPlaced.drop (inv.toPlaced.dead spent (undisturbed key started seen there))
      refine inv.answer ⟨le_rfl, le_rfl, fun _ _ stands => .inl stands⟩ placed rfl rfl
        ⟨fun photo began => ?_, fun _ none_ => (nomatch none_)⟩
      have began' : started = some photo := began
      rw [nothing] at began'
      nomatch began'
    · nomatch came
  | deleteUploadedPhoto id userId =>
    simp only [next] at came
    split at came
    · obtain rfl := Option.some.inj came
      exact inv.call trivial
    · nomatch came
  | remove id =>
    simp only [next] at came
    split at came
    · rename_i key issued there
      obtain rfl := Option.some.inj came
      exact inv.moved (world.later_remove key issued) (inv.toPlaced.remove (undisturbed key issued there)) rfl rfl
        fun _ new => (nomatch new)
    · nomatch came
  | cleanupExpiredImages id =>
    simp only [next] at came
    split at came
    · obtain rfl := Option.some.inj came
      exact inv.call (show world.now ≤ world.now from le_rfl)
    · nomatch came
  | list id page more =>
    simp only [next] at came
    split at came
    · rename_i startedAt folder folders there
      split at came
      · obtain rfl := Option.some.inj came
        have begun : startedAt ≤ world.now := inv.calls id _ there
        exact inv.moved (.refl world) inv.toPlaced rfl rfl
          (afterClear_sound begun fun entry member => inv.toPlaced.stale_spent begun member)
      · nomatch came
    · nomatch came
  | clear id =>
    simp only [next] at came
    split at came
    · rename_i startedAt key seen queue more folders there
      obtain rfl := Option.some.inj came
      obtain ⟨begun, spent⟩ := inv.calls id _ there
      have later : world.Later (world.dropObject key) := ⟨le_rfl, le_rfl, fun _ _ stands => .inl stands⟩
      have found := undisturbed startedAt key seen queue more folders there
      have placed := inv.toPlaced.drop (inv.toPlaced.dead (spent (key, seen) List.mem_cons_self) found)
      exact inv.moved later placed rfl rfl (afterClear_sound begun fun entry member =>
        (spent entry (List.mem_cons_of_mem _ member)).later later)
    · nomatch came
  | fail id =>
    obtain rfl := Option.some.inj came
    exact inv.moved (.refl world) inv.toPlaced rfl rfl fun _ new => (nomatch new)

theorem inv_start : World.Inv {} where
  stands := fun _ _ there => (nomatch there)
  numbered := fun _ _ there => (nomatch there)
  timely := fun _ _ there => (nomatch there)
  kept := fun _ _ there => (nomatch there)
  calls := fun _ _ there => (nomatch there)
  answered := fun _ member => (nomatch member)

/-- A run in which no delete runs late keeps every photo for the gets that begin while it stands. -/
theorem photos_kept (digest : List Char → List Char) (reach : Reach (step digest) Undisturbed {} world) :
    ∀ answer ∈ world.answers, answer.Good := by
  have inv : world.Inv := reach.invariant inv_start fun before event after inv undisturbed committed => by
    unfold step at committed
    split at committed
    · rename_i came
      rw [← Except.ok.inj committed]
      exact next_inv inv undisturbed came
    · nomatch committed
  exact inv.answered

/-- A photo stored and asked for while it lasts. -/
theorem stored_kept : ∃ world : World, Reach (step id) Undisturbed {} world ∧
    world.answers.map Answer.result = [some [7]] ∧ ∀ answer ∈ world.answers, answer.Good := by
  have begun : Reach (step id) Undisturbed {} ({} : World) := .start
  have stored := begun.after (.storeUploadedPhoto 0 ['u'] [7]) trivial rfl
  have put := stored.after (.put 0) trivial rfl
  have asked := put.after (.getUploadedPhoto 1 ['u']) trivial rfl
  have fetched := asked.after (.fetch 1) (fun key object there => by
    obtain ⟨rfl, began⟩ := Call.getting.inj (Option.some.inj there)
    exact began) rfl
  have checked := fetched.after (.check 1) (fun key object found readAt there => by
    obtain ⟨_, began, _⟩ := Call.fetched.inj (Option.some.inj there)
    rw [← Option.some.inj began]
    decide) rfl
  exact ⟨_, checked, rfl, photos_kept id checked⟩

/-- A get that found an expired photo deletes the one stored before its delete runs. -/
theorem photo_lost : ∃ world : World, Reach (step id) anyStep {} world ∧
    ∃ answer ∈ world.answers, answer.started.isSome = true ∧ answer.result = none := by
  obtain ⟨world, reach, lost⟩ := exists_reach (step id) {}
    (fun world => world.answers.any fun answer => answer.started.isSome && answer.result.isNone)
    [.storeUploadedPhoto 0 ['u'] [1], .put 0, .tick TTL_MS, .getUploadedPhoto 1 ['u'], .fetch 1, .check 1,
      .storeUploadedPhoto 2 ['u'] [2], .put 2, .drop 1, .getUploadedPhoto 3 ['u'], .fetch 3] (by decide +kernel)
  obtain ⟨answer, member, none_⟩ := List.any_eq_true.mp lost
  obtain ⟨began, nothing⟩ := Bool.and_eq_true_iff.mp none_
  exact ⟨world, reach, answer, member, began, Option.isNone_iff_eq_none.mp nothing⟩

end LetterIRL.Uploads.TempImages
