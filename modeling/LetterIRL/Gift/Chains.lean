import LetterIRL.Gift.World
import LetterIRL.Lib.Paths

namespace LetterIRL.Gift
open Lib Ledger Commerce

/-! What a gift letter keeps for good, and what ties gift letters to codes and to mail. -/

/-- What no later operation changes of a gift letter, and the letter it was spent on. -/
structure Core where
  grant : GiftSource × Nat
  generationsRemaining : Nat
  consumedByLetterId : Option LetterId

def core (gift : GiftLetter) : Core :=
  { grant := gift.grant, generationsRemaining := gift.generationsRemaining,
    consumedByLetterId := gift.consumedByLetterId }

/-- `first` was granted before `second`. -/
def precedes (cores : List Core) (first second : GiftSource × Nat) : Prop :=
  (cores.map Core.grant).idxOf first < (cores.map Core.grant).idxOf second

/-- A letter that ended without its mail. -/
def ended (status : Option MailStatus) : Prop := status = some .failed ∨ status = some .cancelled

/-- The ties between gift letters, codes and mail. -/
structure Tied (cores : List Core) (codes : List GiftCode) (mail : LetterId → Option MailStatus) : Prop where
  /-- A code is printed on the letter its gift was spent on, for one less budget. -/
  printed : ∀ code ∈ codes, ∃ gift ∈ cores, gift.grant = code.gift ∧
    gift.consumedByLetterId = some code.letterId ∧
    gift.generationsRemaining = code.grantsGenerationsRemaining + 1
  oneCode : ∀ first ∈ codes, ∀ second ∈ codes, first.gift = second.gift → first.code = second.code
  mailed : ∀ gift ∈ cores, ∀ letterId, gift.consumedByLetterId = some letterId → (mail letterId).isSome = true
  oneGift : ∀ first ∈ cores, ∀ second ∈ cores, ∀ letterId, first.consumedByLetterId = some letterId →
    second.consumedByLetterId = some letterId → first.grant = second.grant
  /-- A redeemed code grants one gift letter, with the code's budget. -/
  redeemed : ∀ gift ∈ cores, ∀ code, gift.grant.1 = .chainRedemption code → gift.grant.2 = 0 ∧
    ∃ row ∈ codes, row.code = code ∧ row.status = .redeemed ∧
      gift.generationsRemaining = row.grantsGenerationsRemaining ∧ precedes cores row.gift gift.grant
  /-- A gift letter comes back once, whole, for a letter that was not mailed and whose code is void. -/
  returned : ∀ gift ∈ cores, ∀ letterId, gift.grant.1 = .sendFailed letterId → gift.grant.2 = 0 ∧
    (∃ spent ∈ cores, spent.consumedByLetterId = some letterId ∧
      spent.generationsRemaining = gift.generationsRemaining ∧ precedes cores spent.grant gift.grant) ∧
    (∀ code ∈ codes, code.letterId = letterId → code.status = .void) ∧ ended (mail letterId)

variable {cores : List Core} {codes : List GiftCode} {mail : LetterId → Option MailStatus}

theorem precedes_append {first second : GiftSource × Nat} {gift : Core} (before : precedes cores first second)
    (known : second ∈ cores.map Core.grant) : precedes (cores ++ [gift]) first second := by
  unfold precedes at before ⊢
  have earlier : first ∈ cores.map Core.grant :=
    List.idxOf_lt_length_iff.mp (before.trans (List.idxOf_lt_length_iff.mpr known))
  rw [List.map_append, List.idxOf_append_of_mem known, List.idxOf_append_of_mem earlier]
  exact before

theorem precedes_last {gift spent : Core} (fresh : gift.grant ∉ cores.map Core.grant) (member : spent ∈ cores) :
    precedes (cores ++ [gift]) spent.grant gift.grant := by
  unfold precedes
  have earlier : spent.grant ∈ cores.map Core.grant := List.mem_map_of_mem member
  rw [List.map_append, List.idxOf_append_of_mem earlier, List.idxOf_append_of_notMem fresh]
  exact Nat.lt_of_lt_of_le (List.idxOf_lt_length_iff.mpr earlier) (Nat.le_add_right _ _)

/-- A new gift letter, unspent, that is what its source makes it. -/
theorem Tied.insert {gift : Core} (tied : Tied cores codes mail) (unspent : gift.consumedByLetterId = none)
    (chain : ∀ code, gift.grant.1 = .chainRedemption code → gift.grant.2 = 0 ∧ ∃ row ∈ codes, row.code = code ∧
      row.status = .redeemed ∧ gift.generationsRemaining = row.grantsGenerationsRemaining)
    (back : ∀ letterId, gift.grant.1 = .sendFailed letterId → gift.grant.2 = 0 ∧
      (∃ spent ∈ cores, spent.consumedByLetterId = some letterId ∧
        spent.generationsRemaining = gift.generationsRemaining) ∧
      (∀ code ∈ codes, code.letterId = letterId → code.status = .void) ∧ ended (mail letterId))
    (fresh : gift.grant ∉ cores.map Core.grant) : Tied (cores ++ [gift]) codes mail where
  printed code member := by
    obtain ⟨spent, known, rest⟩ := tied.printed code member
    exact ⟨spent, List.mem_append_left _ known, rest⟩
  oneCode := tied.oneCode
  mailed other member letterId spent := by
    rw [List.mem_append, List.mem_singleton] at member
    rcases member with old | rfl
    · exact tied.mailed other old letterId spent
    · rw [unspent] at spent
      cases spent
  oneGift first left second right letterId spent same := by
    rw [List.mem_append, List.mem_singleton] at left right
    rcases left with left | rfl
    · rcases right with right | rfl
      · exact tied.oneGift first left second right letterId spent same
      · rw [unspent] at same
        cases same
    · rw [unspent] at spent
      cases spent
  redeemed other member code source := by
    rw [List.mem_append, List.mem_singleton] at member
    rcases member with old | rfl
    · obtain ⟨index, row, known, named, status, budget, before⟩ := tied.redeemed other old code source
      exact ⟨index, row, known, named, status, budget, precedes_append before (List.mem_map_of_mem old)⟩
    · obtain ⟨index, row, known, named, status, budget⟩ := chain code source
      obtain ⟨spent, inCores, printedBy, -⟩ := tied.printed row known
      exact ⟨index, row, known, named, status, budget, printedBy ▸ precedes_last fresh inCores⟩
  returned other member letterId source := by
    rw [List.mem_append, List.mem_singleton] at member
    rcases member with old | rfl
    · obtain ⟨index, ⟨spent, known, on, budget, before⟩, rest⟩ := tied.returned other old letterId source
      exact ⟨index, ⟨spent, List.mem_append_left _ known, on, budget,
        precedes_append before (List.mem_map_of_mem old)⟩, rest⟩
    · obtain ⟨index, ⟨spent, known, on, budget⟩, rest⟩ := back letterId source
      exact ⟨index, ⟨spent, List.mem_append_left _ known, on, budget, precedes_last fresh known⟩, rest⟩

/-- A gift letter is spent on a new letter. -/
theorem Tied.spend {letterId : LetterId} {spent : List Core} {mail' : LetterId → Option MailStatus}
    (tied : Tied cores codes mail) (grant : GiftSource × Nat)
    (shape : spent = cores.map fun gift =>
      if gift.grant = grant then { gift with consumedByLetterId := some letterId } else gift)
    (free : ∀ gift ∈ cores, gift.grant = grant → gift.consumedByLetterId = none)
    (fresh : mail letterId = none)
    (posted : ∀ other, mail' other = if other = letterId then some .inFlight else mail other) :
    Tied spent codes mail' := by
  have keys : spent.map Core.grant = cores.map Core.grant := by
    rw [shape, List.map_map]
    refine List.map_congr_left fun gift _ => ?_
    simp only [Function.comp_apply]
    split <;> rfl
  have forward : ∀ gift ∈ cores, ∀ other, gift.consumedByLetterId = some other → gift ∈ spent := by
    intro gift member other on
    rw [shape]
    refine List.mem_map.mpr ⟨gift, member, if_neg fun same => ?_⟩
    rw [free gift member same] at on
    cases on
  have backward : ∀ gift ∈ spent, ∃ old ∈ cores, old.grant = gift.grant ∧
      old.generationsRemaining = gift.generationsRemaining ∧
      (gift.consumedByLetterId = old.consumedByLetterId ∨
        gift.grant = grant ∧ gift.consumedByLetterId = some letterId) := by
    intro gift member
    rw [shape] at member
    obtain ⟨old, known, here⟩ := List.mem_map.mp member
    split at here
    · rename_i same
      subst here
      exact ⟨old, known, rfl, rfl, .inr ⟨same, rfl⟩⟩
    · subst here
      exact ⟨old, known, rfl, rfl, .inl rfl⟩
  have unknown : ∀ gift ∈ cores, gift.consumedByLetterId ≠ some letterId := by
    intro gift member on
    have there := tied.mailed gift member letterId on
    rw [fresh] at there
    cases there
  have order : ∀ first second, precedes cores first second → precedes spent first second := by
    intro first second before
    unfold precedes
    rw [keys]
    exact before
  refine ⟨?_, tied.oneCode, ?_, ?_, ?_, ?_⟩
  · intro code member
    obtain ⟨gift, known, named, on, budget⟩ := tied.printed code member
    exact ⟨gift, forward gift known _ on, named, on, budget⟩
  · intro gift member other on
    rw [posted]
    split
    · rfl
    · rename_i differ
      obtain ⟨old, known, -, -, same | ⟨-, new⟩⟩ := backward gift member
      · exact tied.mailed old known other (same ▸ on)
      · rw [new] at on
        exact absurd (Option.some.inj on).symm differ
  · intro first left second right other on same
    obtain ⟨a, inA, nameA, -, spentA⟩ := backward first left
    obtain ⟨b, inB, nameB, -, spentB⟩ := backward second right
    rcases spentA with keptA | ⟨thisA, newA⟩
    · rcases spentB with keptB | ⟨thisB, newB⟩
      · rw [← nameA, ← nameB]
        exact tied.oneGift a inA b inB other (keptA ▸ on) (keptB ▸ same)
      · rw [newB] at same
        cases same
        exact absurd (keptA ▸ on) (unknown a inA)
    · rcases spentB with keptB | ⟨thisB, newB⟩
      · rw [newA] at on
        cases on
        exact absurd (keptB ▸ same) (unknown b inB)
      · rw [thisA, thisB]
  · intro gift member code source
    obtain ⟨old, known, named, budget, -⟩ := backward gift member
    obtain ⟨index, row, inCodes, rowCode, status, rowBudget, before⟩ :=
      tied.redeemed old known code (by rw [named]; exact source)
    rw [named] at index before
    exact ⟨index, row, inCodes, rowCode, status, budget ▸ rowBudget, order _ _ before⟩
  · intro gift member other source
    obtain ⟨old, known, named, budget, -⟩ := backward gift member
    obtain ⟨index, ⟨consumed, inCores, on, same, before⟩, void, finished⟩ :=
      tied.returned old known other (by rw [named]; exact source)
    rw [named] at index before
    refine ⟨index, ⟨consumed, forward consumed inCores _ on, on, same.trans budget, order _ _ before⟩, void, ?_⟩
    rw [posted, if_neg]
    · exact finished
    · rintro rfl
      exact unknown consumed inCores on

/-- The code of a letter in flight is minted. -/
theorem Tied.mint {code : GiftCode} (tied : Tied cores codes mail)
    (gift : ∃ gift ∈ cores, gift.grant = code.gift ∧ gift.consumedByLetterId = some code.letterId ∧
      gift.generationsRemaining = code.grantsGenerationsRemaining + 1)
    (first : ∀ other ∈ codes, other.gift ≠ code.gift) (going : mail code.letterId = some .inFlight) :
    Tied cores (codes ++ [code]) mail where
  printed other member := by
    rw [List.mem_append, List.mem_singleton] at member
    rcases member with old | rfl
    · exact tied.printed other old
    · exact gift
  oneCode one left two right same := by
    rw [List.mem_append, List.mem_singleton] at left right
    rcases left with left | rfl
    · rcases right with right | rfl
      · exact tied.oneCode one left two right same
      · exact absurd same (first one left)
    · rcases right with right | rfl
      · exact absurd same.symm (first two right)
      · rfl
  mailed := tied.mailed
  oneGift := tied.oneGift
  redeemed gift member name source := by
    obtain ⟨index, row, known, rest⟩ := tied.redeemed gift member name source
    exact ⟨index, row, List.mem_append_left _ known, rest⟩
  returned gift member letterId source := by
    obtain ⟨index, spent, void, finished⟩ := tied.returned gift member letterId source
    refine ⟨index, spent, fun other inCodes on => ?_, finished⟩
    rw [List.mem_append, List.mem_singleton] at inCodes
    rcases inCodes with old | rfl
    · exact void other old on
    · rw [on] at going
      rcases finished with finished | finished <;> rw [going] at finished <;> cases finished

/-- A code issued and not yet used changes its status. -/
theorem Tied.settleCodes {selected : GiftCode → Bool} {status : CodeStatus} (tied : Tied cores codes mail)
    (issued : ∀ code ∈ codes, selected code = true → code.status = .issued) :
    Tied cores (updateWhere selected (fun code => { code with status }) codes) mail := by
  have backward : ∀ code ∈ updateWhere selected (fun code => { code with status }) codes,
      ∃ old ∈ codes, old.code = code.code ∧ old.gift = code.gift ∧ old.letterId = code.letterId ∧
        old.grantsGenerationsRemaining = code.grantsGenerationsRemaining ∧
        (code = old ∨ old.status = .issued) := by
    intro code member
    rcases mem_updateWhere.mp member with ⟨old, -⟩ | ⟨old, known, hit, rfl⟩
    · exact ⟨code, old, rfl, rfl, rfl, rfl, .inl rfl⟩
    · exact ⟨old, known, rfl, rfl, rfl, rfl, .inr (issued old known hit)⟩
  have forward : ∀ code ∈ codes, code.status ≠ .issued →
      code ∈ updateWhere selected (fun code => { code with status }) codes := by
    intro code member used
    refine mem_updateWhere.mpr (.inl ⟨member, ?_⟩)
    by_contra hit
    exact used (issued code member (by simpa using hit))
  refine ⟨?_, ?_, tied.mailed, tied.oneGift, ?_, ?_⟩
  · intro code member
    obtain ⟨old, known, -, gift, on, budget, -⟩ := backward code member
    rw [← gift, ← on, ← budget]
    exact tied.printed old known
  · intro one left two right same
    obtain ⟨a, inA, codeA, giftA, -⟩ := backward one left
    obtain ⟨b, inB, codeB, giftB, -⟩ := backward two right
    rw [← codeA, ← codeB]
    exact tied.oneCode a inA b inB (by rw [giftA, giftB, same])
  · intro gift member name source
    obtain ⟨index, row, known, named, used, rest⟩ := tied.redeemed gift member name source
    have spent : row.status ≠ .issued := by simp [used]
    exact ⟨index, row, forward row known spent, named, used, rest⟩
  · intro gift member letterId source
    obtain ⟨index, spent, void, finished⟩ := tied.returned gift member letterId source
    refine ⟨index, spent, fun code inCodes on => ?_, finished⟩
    obtain ⟨old, known, -, -, same, -, rfl | unused⟩ := backward code inCodes
    · exact void _ known on
    · have used := void old known (same.trans on)
      rw [unused] at used
      cases used

/-- Mail moves on: what is not in flight stays, but for a letter that no gift letter came back for. -/
theorem Tied.post {mail' : LetterId → Option MailStatus} (tied : Tied cores codes mail)
    (still : ∀ letterId, (mail letterId).isSome = true → (mail' letterId).isSome = true)
    (closed : ∀ letterId, ended (mail letterId) → ended (mail' letterId) ∨
      ∀ gift ∈ cores, gift.grant.1 ≠ .sendFailed letterId) : Tied cores codes mail' where
  printed := tied.printed
  oneCode := tied.oneCode
  mailed gift member letterId on := still letterId (tied.mailed gift member letterId on)
  oneGift := tied.oneGift
  redeemed := tied.redeemed
  returned gift member letterId source := by
    obtain ⟨index, spent, void, done⟩ := tied.returned gift member letterId source
    rcases closed letterId done with done | never
    · exact ⟨index, spent, void, done⟩
    · exact absurd source (never gift member)

end LetterIRL.Gift
