import AegisLedger.Gateway.Mandates
import AegisLedger.Gateway.Proofs.AttestationSoundness
import AegisLedger.Support.Ancestry
import AegisLedger.Support.Run
import AegisLedger.Support.Tally

/-!
# Budgets of mandates

The history of a run is the list of its successful consumes.  As long as no counter is
reset after it has been charged, the counters of the ledger and the history have the same
tally over every set of mandates; the budget of one mandate and the budget of the tree
below it are both read off this.
-/

namespace AegisLedger.Gateway.MandateBudget

open AegisLedger.Support HexText Checks Dict Tally Ancestry
open MandateLedger

variable {host : Host} {ledger after : MandateLedger} {trace : List Event}

/-! ## What the calls do -/

variable {stack : Nat} {mandateId : Uuid} {mandate : IntentMandateV1}

theorem get?_of_active {chain : Nat → Datetime} {depth : Nat}
    (h : ledger.active chain stack depth mandateId = .ok mandate) :
    ledger.mandates.get? mandateId = some mandate := by
  cases stack with
  | zero => cases h
  | succ stack =>
    rw [active, orRaise_bind_eq_ok] at h
    obtain ⟨found, hfound, h⟩ := h
    rw [raiseIf_bind_eq_ok, raiseIf_bind_eq_ok] at h
    obtain ⟨_, _, h⟩ := h
    split at h
    · rw [bind_eq_ok] at h
      obtain ⟨_, _, h⟩ := h
      rw [pure_eq_ok] at h
      rw [hfound, h]
    · rw [pure_eq_ok] at h
      rw [hfound, h]

variable {publicKey : Bytes} {readings : LedgerReadings}

theorem register_cases (h : ledger.register host mandate publicKey readings stack = .ok after) :
    ∃ mandateId, mandate.mandateId = some mandateId ∧ after = ledger.enter mandateId mandate := by
  rw [register, orRaise_bind_eq_ok] at h
  obtain ⟨mandateId, hid, h⟩ := h
  rw [raiseIf_bind_eq_ok, mapError_bind_eq_ok] at h
  obtain ⟨_, payload, _, h⟩ := h
  rw [raiseIf_bind_eq_ok, raiseIf_bind_eq_ok, raiseIf_bind_eq_ok] at h
  obtain ⟨_, _, _, h⟩ := h
  refine ⟨mandateId, hid, ?_⟩
  split at h
  · rw [bind_eq_ok] at h
    obtain ⟨parent, _, h⟩ := h
    rw [bind_eq_ok] at h
    obtain ⟨_, _, h⟩ := h
    exact (pure_eq_ok.mp h).symm
  · exact (pure_eq_ok.mp h).symm

theorem revoke_cases {actor : Str} (h : ledger.revoke host mandateId actor = .ok after) :
    after = { ledger with revoked := mandateId :: ledger.revoked } := by
  rw [revoke, orRaise_bind_eq_ok] at h
  obtain ⟨mandate, _, h⟩ := h
  rw [raiseIf_bind_eq_ok] at h
  exact (pure_eq_ok.mp h.2).symm

/-- Mandate, cart and proposal agree. -/
structure Agrees (host : Host) (mandate : IntentMandateV1) (proposal : ProposalV1)
    (cart : CartMandateV1) (audience : Str) : Prop where
  intentHash : mandate.intentHash host = .ok cart.intentHash.val
  proposalHash : proposal.proposalHash host = .ok cart.proposalHash.val
  reference : ∀ mandateId, proposal.mandateId = some mandateId →
    mandate.mandateId = some mandateId
  audience : audience = mandate.audience.val
  principal : proposal.principalId.val = mandate.delegate.val
  chain : proposal.chainId ∈ mandate.chainIds ∧ cart.chainId = proposal.chainId
  asset : proposal.asset ∈ mandate.assets ∧ cart.asset = proposal.asset
  recipient : transferRecipient proposal = some cart.merchant ∧ cart.merchant ∈ mandate.recipients
  amount : cart.amount = proposal.amount

variable {proposal : ProposalV1} {cart : CartMandateV1} {audience : Str}

theorem agrees_of_verifyScope {u : Unit}
    (h : verifyScope host mandate proposal cart audience = .ok u) :
    Agrees host mandate proposal cart audience := by
  unfold verifyScope at h
  simp only [mapError_bind_eq_ok, raiseIf_bind_eq_ok, orRaise_bind_eq_ok, raiseIf_eq_ok,
    not_not, not_or, not_and] at h
  obtain ⟨intentHash, hintent, heqIntent, proposalHash, hproposal, heqProposal, hreference,
    haudience, hprincipal, hchain, hasset, recipient, hrecipient, hmerchant, hamount⟩ := h
  obtain ⟨rfl, hmember⟩ := hmerchant
  refine ⟨?_, ?_, ?_, haudience, hprincipal, hchain, hasset, ⟨hrecipient, hmember⟩, hamount⟩
  · rw [heqIntent]
    exact hintent
  · rw [heqProposal]
    exact hproposal
  · intro mandateId hid
    have hsame := hreference (by simp [hid])
    exact hsame.symm.trans hid

variable {merchantPublicKey : Bytes}

/-- A charge of the mandate that the cart names, under a hash and a nonce not used before. -/
theorem consume_eq_ok
    (h : ledger.consume host proposal cart merchantPublicKey audience readings stack =
      .ok after) :
    ∃ mandate mandateId spent cartHash,
      ledger.active readings.chain stack 0 cart.mandateId = .ok mandate ∧
      mandate.mandateId = some mandateId ∧ ledger.spent.get? mandateId = some spent ∧
      Agrees host mandate proposal cart audience ∧
      spent + proposal.amount.val ≤ mandate.maximumAmount.val ∧
      cart.cartHash host = .ok cartHash ∧ cartHash ∉ ledger.usedCartHashes ∧
      (cart.merchant.val, cart.nonce.val) ∉ ledger.usedCartNonces ∧
      after = ledger.charge mandateId (spent + proposal.amount.val) cartHash cart := by
  rw [consume, bind_eq_ok] at h
  obtain ⟨mandate, hactive, h⟩ := h
  rw [bind_eq_ok] at h
  obtain ⟨cartHash, hcart, h⟩ := h
  rw [bind_eq_ok] at h
  obtain ⟨_, hscope, h⟩ := h
  rw [orRaise_bind_eq_ok] at h
  obtain ⟨mandateId, hid, h⟩ := h
  rw [orRaise_bind_eq_ok] at h
  obtain ⟨spent, hspent, h⟩ := h
  rw [raiseIf_bind_eq_ok, pure_eq_ok] at h
  obtain ⟨hbudget, hafter⟩ := h
  rw [verifyCart] at hcart
  simp only [raiseIf_bind_eq_ok, mapError_bind_eq_ok, pure_eq_ok, not_or] at hcart
  obtain ⟨_, _, _, _, _, hashed, hhash, ⟨hfreshHash, hfreshNonce⟩, rfl⟩ := hcart
  exact ⟨mandate, mandateId, spent, hashed, hactive, hid, hspent, agrees_of_verifyScope hscope,
    not_lt.mp hbudget, hhash, hfreshHash, hfreshNonce, hafter.symm⟩

theorem consume_cases
    (h : ledger.consume host proposal cart merchantPublicKey audience readings stack =
      .ok after) :
    ∃ mandate mandateId spent, ledger.mandates.get? cart.mandateId = some mandate ∧
      mandate.mandateId = some mandateId ∧ ledger.spent.get? mandateId = some spent ∧
      spent + cart.amount.val ≤ mandate.maximumAmount.val ∧
      after.mandates = ledger.mandates ∧
      after.spent = ledger.spent.set mandateId (spent + cart.amount.val) := by
  obtain ⟨mandate, mandateId, spent, cartHash, hactive, hid, hspent, hagrees, hbudget, _, _, _,
    rfl⟩ := consume_eq_ok h
  rw [hagrees.amount]
  exact ⟨mandate, mandateId, spent, get?_of_active hactive, hid, hspent, hbudget, rfl, rfl⟩

variable {event : Event}

/-- A step writes neither mandates nor counters, or registers a mandate, or charges one. -/
theorem step_cases (hstep : Step host ledger event after) :
    (after.mandates = ledger.mandates ∧ after.spent = ledger.spent ∧ charges [event] = [] ∧
      registrations [event] = []) ∨
    (∃ mandate publicKey readings stack mandateId,
      event = ⟨.register mandate publicKey readings stack, true⟩ ∧
      mandate.mandateId = some mandateId ∧ after = ledger.enter mandateId mandate) ∨
    (∃ proposal cart merchantPublicKey audience readings stack,
      event = ⟨.consume proposal cart merchantPublicKey audience readings stack, true⟩ ∧
      ledger.consume host proposal cart merchantPublicKey audience readings stack =
        .ok after) := by
  cases hstep with
  | @returns _ call hperform =>
    cases call with
    | register mandate publicKey readings stack =>
      obtain ⟨mandateId, hid, hafter⟩ := register_cases hperform
      exact Or.inr (Or.inl ⟨mandate, publicKey, readings, stack, mandateId, rfl, hid, hafter⟩)
    | revoke mandateId actor =>
      rw [revoke_cases hperform]
      exact Or.inl ⟨rfl, rfl, rfl, rfl⟩
    | consume proposal cart merchantPublicKey audience readings stack =>
      exact Or.inr (Or.inr
        ⟨proposal, cart, merchantPublicKey, audience, readings, stack, rfl, hperform⟩)
  | @raises call error hperform =>
    cases call with
    | register => exact Or.inl ⟨rfl, rfl, rfl, rfl⟩
    | revoke => exact Or.inl ⟨rfl, rfl, rfl, rfl⟩
    | consume => exact Or.inl ⟨rfl, rfl, rfl, rfl⟩

/-! ## Counters and history -/

theorem charges_append (trace later : List Event) :
    charges (trace ++ later) = charges trace ++ charges later :=
  List.filterMap_append

/-- The counters and the history have the same tally over every set of mandates. -/
structure Accounted (trace : List Event) (ledger : MandateLedger) : Prop where
  /-- A mandate is registered under its own identifier. -/
  named : ∀ {mandateId mandate}, ledger.mandates.get? mandateId = some mandate →
    mandate.mandateId = some mandateId
  /-- Only a registered mandate has a counter. -/
  unregistered : ∀ {mandateId}, ledger.mandates.get? mandateId = none →
    ledger.spent.get? mandateId = none
  tally : ∀ p, total p ledger.spent.entries = total p (charges trace)

theorem accounted_empty : Accounted [] .empty where
  named := by
    intro mandateId mandate hget
    exact absurd hget (by simp [MandateLedger.empty])
  unregistered := by
    intro mandateId _
    rfl
  tally := fun _ => rfl

/-- An event that charges nothing and leaves mandates and counters alone. -/
theorem Accounted.same (hacc : Accounted trace ledger)
    (hmandates : after.mandates = ledger.mandates) (hspent : after.spent = ledger.spent)
    (hcharges : charges [event] = []) : Accounted (trace ++ [event]) after where
  named := by
    rw [hmandates]
    exact hacc.named
  unregistered := by
    rw [hmandates, hspent]
    exact hacc.unregistered
  tally := by
    intro p
    rw [hspent, charges_append, hcharges, List.append_nil]
    exact hacc.tally p

theorem get?_enter (ledger : MandateLedger) (mandateId : Uuid) (mandate : IntentMandateV1)
    (id : Uuid) :
    (ledger.enter mandateId mandate).mandates.get? id =
      if id = mandateId then some mandate else ledger.mandates.get? id :=
  get?_set _ _ _ _

theorem consumed_enter (ledger : MandateLedger) (mandateId : Uuid) (mandate : IntentMandateV1)
    (id : Uuid) :
    (ledger.enter mandateId mandate).consumed id =
      if id = mandateId then 0 else ledger.consumed id := by
  rw [consumed, enter, get?_set]
  by_cases hid : id = mandateId
  · rw [if_pos hid, if_pos hid]
    rfl
  · rw [if_neg hid, if_neg hid]
    rfl

theorem Accounted.enter (hacc : Accounted trace ledger) (hid : mandate.mandateId = some mandateId)
    (hzero : ledger.consumed mandateId = 0) :
    Accounted (trace ++ [⟨.register mandate publicKey readings stack, true⟩])
      (ledger.enter mandateId mandate) where
  named := by
    intro otherId other hget
    rw [get?_enter] at hget
    by_cases hother : otherId = mandateId
    · rw [if_pos hother, Option.some.injEq] at hget
      rw [← hget, hother]
      exact hid
    · rw [if_neg hother] at hget
      exact hacc.named hget
  unregistered := by
    intro otherId hget
    rw [get?_enter] at hget
    by_cases hother : otherId = mandateId
    · rw [if_pos hother] at hget
      cases hget
    · rw [if_neg hother] at hget
      rw [MandateLedger.enter, get?_set_ne _ hother]
      exact hacc.unregistered hget
  tally := by
    intro p
    have hset := total_set p ledger.spent mandateId 0
    have hold : (ledger.spent.get? mandateId).getD 0 = 0 := hzero
    rw [hold, hacc.tally p] at hset
    have hcharges : charges [⟨.register mandate publicKey readings stack, true⟩] = [] := rfl
    rw [charges_append, hcharges, List.append_nil]
    exact Nat.add_right_cancel hset

/-- The counter that a consume moves is that of the mandate its cart names. -/
theorem Accounted.consume_cases (hacc : Accounted trace ledger)
    (h : ledger.consume host proposal cart merchantPublicKey audience readings stack =
      .ok after) :
    ∃ mandate spent, ledger.mandates.get? cart.mandateId = some mandate ∧
      ledger.spent.get? cart.mandateId = some spent ∧
      spent + cart.amount.val ≤ mandate.maximumAmount.val ∧
      after.mandates = ledger.mandates ∧
      after.spent = ledger.spent.set cart.mandateId (spent + cart.amount.val) := by
  obtain ⟨mandate, mandateId, spent, hget, hid, hspent, hbudget, hmandates, hafter⟩ :=
    MandateBudget.consume_cases h
  have hname := hacc.named hget
  rw [hid, Option.some.injEq] at hname
  rw [hname] at hspent hafter
  exact ⟨mandate, spent, hget, hspent, hbudget, hmandates, hafter⟩

theorem Accounted.charge (hacc : Accounted trace ledger)
    (h : ledger.consume host proposal cart merchantPublicKey audience readings stack =
      .ok after) :
    Accounted (trace ++
      [⟨.consume proposal cart merchantPublicKey audience readings stack, true⟩]) after := by
  obtain ⟨mandate, spent, hget, hspent, _, hmandates, hafter⟩ := hacc.consume_cases h
  constructor
  · rw [hmandates]
    exact hacc.named
  · intro otherId hnone
    rw [hmandates] at hnone
    have hother : otherId ≠ cart.mandateId := by
      intro heq
      rw [heq, hget] at hnone
      cases hnone
    rw [hafter, get?_set_ne _ hother]
    exact hacc.unregistered hnone
  · intro p
    have hset := total_set p ledger.spent cart.mandateId (spent + cart.amount.val)
    have hcharge : charges [⟨.consume proposal cart merchantPublicKey audience readings stack,
        true⟩] = [(cart.mandateId, cart.amount.val)] := rfl
    rw [hspent, Option.getD_some, hacc.tally p] at hset
    rw [hafter, charges_append, hcharge, total_append, total_singleton]
    by_cases hp : p cart.mandateId = true
    · rw [if_pos hp, if_pos hp] at hset
      rw [if_pos hp]
      omega
    · rw [if_neg hp, if_neg hp] at hset
      rw [if_neg hp]
      exact hset

/-! ## Sample mandates -/

open SignedEffect AttestationSoundness

def ownerKey : Bytes :=
  bytesLiteral 32 0xffc2b2f8d777bbc6622aa600a6fe292c5207e0b7fbfa1497caf308d7a96023b1

def agentKey : Bytes :=
  bytesLiteral 32 0x331bbeb9f5d66afdcf3150095d05ce685f99175b5c0540f19f13c12bf5f14de4

def merchantKey : Bytes :=
  bytesLiteral 32 0x0728d882599a64f93e6fa77859e745206195346ea4fd8a432c5004e6a283019d

def ownerAddress : LowerAddress := lowerAddress 0xeb00586a7c37db662b7cf3788406c7fdb01a520c

def agentAddress : LowerAddress := lowerAddress 0xa8b85e2d819f7dc37cc41a9f5d46b4955bac266e

def merchantAddress : LowerAddress := lowerAddress 0xed316d06632517c88a5ad3ee3ed400a5cf49b2da

def signatureLiteral (high low : Nat) : SignatureHex :=
  ⟨lowHexDigits 128 (high * 2 ^ 256 + low), by
    simp [length_lowHexDigits, all_lowHexDigits]⟩

def sampleMandate (mandateId : Uuid) (issuer : LowerAddress) (delegate : BoundedStr 1 256)
    (maximumAmount : PosInt) (nonce : BoundedStr 6 128) (parentMandateId : Option Uuid)
    (signature : SignatureHex) : IntentMandateV1 where
  mandateId := some mandateId
  issuer := issuer
  delegate := delegate
  audience := ⟨"aegisledger-gateway".toList, by decide⟩
  chainIds := [31337]
  assets := [sampleAsset]
  recipients := [merchantAddress]
  maximumAmount := maximumAmount
  expiresAt := sampleDeadline
  nonce := nonce
  parentMandateId := parentMandateId
  signature := signature
  normalized := ⟨List.pairwise_singleton _ _, List.pairwise_singleton _ _,
    List.pairwise_singleton _ _⟩

def rootId : Uuid := 0x19f7518fe0070008000000000000021

def firstId : Uuid := 0x19f7518fe0070008000000000000022

def secondId : Uuid := 0x19f7518fe0070008000000000000023

def agentSubject : BoundedStr 1 256 := ⟨agentAddress.val, by decide +kernel⟩

/-- A budget of 150, delegated to the agent. -/
def rootMandate : IntentMandateV1 :=
  sampleMandate rootId ownerAddress agentSubject 150
    ⟨"root-intent".toList, by decide⟩ none (signatureLiteral
    0x17e1339f07857d5f71e11109f3baded7cb79345d3117394d380bee5aeff776bd
    0x706dcf3834c4881791bf0efba53a12425768089eb5a474a5146a14876d829f0b)

/-- A mandate of the agent for 100 of the budget. -/
def childMandate (mandateId : Uuid) (nonce : BoundedStr 6 128) (signature : SignatureHex) :
    IntentMandateV1 :=
  sampleMandate mandateId agentAddress ⟨"researcher".toList, by decide⟩ 100 nonce
    (some rootId) signature

def firstMandate : IntentMandateV1 :=
  childMandate firstId ⟨"first-intent".toList, by decide⟩ (signatureLiteral
    0x4c0174a14a3f83dc6fd5e921103f48eb15822725e9054c2f4512aea19de8aa17
    0x56bd3421aade5bd3378011c640df69a96a74c502c3910544ab4328849dfbde04)

def secondMandate : IntentMandateV1 :=
  childMandate secondId ⟨"second-intent".toList, by decide⟩ (signatureLiteral
    0xb1f8cd109780d016809fa6df42e1aa0c3700cc37383c22a7021b6e7b14e20a1b
    0xa52053a959ea67c9de8f5509bfcc8028c0aabe90b2c08143a268bd023dab2205)

/-- The first child again, with a fresh nonce. -/
def renewedMandate : IntentMandateV1 :=
  childMandate firstId ⟨"renewed-intent".toList, by decide⟩ (signatureLiteral
    0x49910a9d41dfb1a18263b973dcd98be212ab7ab6eef93f088e00766fa4eb5a45
    0x30ae6be6aeebc7c22357b6a7832c173ee44e492de6db062ac3f81ddd25c5f10a)

def firstPurchase : ProposalV1 := { transferProposal sampleWallet merchantAddress with
  idempotencyKey := ⟨"first-purchase".toList, by decide⟩ }

def secondPurchase : ProposalV1 := { transferProposal sampleWallet merchantAddress with
  proposalId := otherProposalId
  idempotencyKey := ⟨"second-purchase".toList, by decide⟩ }

def firstPurchaseHash : Nat :=
  0xc245c92a7432e5e0076095d9d5b1d29f4775438b3c8babddd892514d36a5ae1c

def secondPurchaseHash : Nat :=
  0xaafe71ee571f689c29b64cb7e3967414e80eba0938fbe00bf1c512fc6932e57e

def firstIntentHash : Nat :=
  0x3d663528cd83e9c2f553c46b9b994e7eaf3adef7e8de2bc55170d6b2b6b36793

def secondIntentHash : Nat :=
  0x1f4b0aa884bd56aa519a210819a58e5d14cf569125c0e2203a1954a30339018a

def renewedIntentHash : Nat :=
  0xbdcd3157654a7ebe7a7c609e63b4221d909f8fe7c950165866c4fe2c1f2115c1

def sampleCart (cartId mandateId : Uuid) (intentHash proposalHash : Nat)
    (nonce : BoundedStr 6 128) (signature : SignatureHex) : CartMandateV1 where
  cartId := some cartId
  merchant := merchantAddress
  mandateId := mandateId
  intentHash := hex32 intentHash
  proposalHash := hex32 proposalHash
  chainId := 31337
  asset := sampleAsset
  amount := 100
  expiresAt := sampleDeadline
  nonce := nonce
  signature := signature

def firstCart : CartMandateV1 :=
  sampleCart 0x19f7518fe0070008000000000000031 firstId firstIntentHash firstPurchaseHash
    ⟨"first-cart".toList, by decide⟩ (signatureLiteral
    0x8d65561403693d5e71886df9444ab8b4381283b92f35e9874de1a458929f147f
    0x5fb179f4a4976a590032410093afbd567d80041f9d709fb95ca6f139e51ba70e)

def secondCart : CartMandateV1 :=
  sampleCart 0x19f7518fe0070008000000000000032 secondId secondIntentHash secondPurchaseHash
    ⟨"second-cart".toList, by decide⟩ (signatureLiteral
    0x4c74726128024c16778b1258cdd656a47380b411c1c498ea7c34eeb132b9a101
    0x4fb49265f386ba6f5ac7357f41b14f1fea322bc9e2afa254d64edf1e74be100a)

def renewedCart : CartMandateV1 :=
  sampleCart 0x19f7518fe0070008000000000000033 firstId renewedIntentHash secondPurchaseHash
    ⟨"renewed-cart".toList, by decide⟩ (signatureLiteral
    0x6113c73501a6dc5211665d30faef3622c86c3ff4a43b0ab90b1710c4e865cedf
    0xaacad0ce13599f8e9762e02b4bcdb6ce8fd1c655ace3741a3894e64aa997af02)

def firstCartHash : Nat :=
  0xe748962da9165c47c26822397d749d4a4b4f66e6bbaa2d87dc5c29d50d8da53e

def secondCartHash : Nat :=
  0x90660074aa1c7d4d53cf188c1e3545f603377b73ff5c472b3d7c5660b8c9a59d

def renewedCartHash : Nat :=
  0xe954b6b961227076ac00895774d96fddecd90760c0085a6c160dad831211a455

/-- The real digests and signatures of the sample mandates and carts. -/
def mandateHost : Host := { textHost with
  sha256 := digestTable [
    (ownerKey, 0x2b7f8db49a7f7c03ad7c72f4eb00586a7c37db662b7cf3788406c7fdb01a520c),
    (agentKey, 0x088dd17cee3da9533c2533fda8b85e2d819f7dc37cc41a9f5d46b4955bac266e),
    (merchantKey, 0x547893b6b9d30b322ded15e0ed316d06632517c88a5ad3ee3ed400a5cf49b2da),
    (canonicalText (firstPurchase.modelDump textHost), firstPurchaseHash),
    (canonicalText (secondPurchase.modelDump textHost), secondPurchaseHash),
    (canonicalText (firstMandate.unsignedDump textHost), firstIntentHash),
    (canonicalText (secondMandate.unsignedDump textHost), secondIntentHash),
    (canonicalText (renewedMandate.unsignedDump textHost), renewedIntentHash),
    (canonicalText (firstCart.unsignedDump textHost), firstCartHash),
    (canonicalText (secondCart.unsignedDump textHost), secondCartHash),
    (canonicalText (renewedCart.unsignedDump textHost), renewedCartHash)]
  ed25519Verify := fun key message signature =>
    [(ownerKey, rootMandate.unsignedDump textHost, rootMandate.signature),
      (agentKey, firstMandate.unsignedDump textHost, firstMandate.signature),
      (agentKey, secondMandate.unsignedDump textHost, secondMandate.signature),
      (agentKey, renewedMandate.unsignedDump textHost, renewedMandate.signature),
      (merchantKey, firstCart.unsignedDump textHost, firstCart.signature),
      (merchantKey, secondCart.unsignedDump textHost, secondCart.signature),
      (merchantKey, renewedCart.unsignedDump textHost, renewedCart.signature)].any fun signed =>
        key = signed.1 ∧ some signature = fromHex signed.2.2.val ∧
          message = canonicalText signed.2.1 }

/-- The clock stands still during the call. -/
def ledgerReadings : LedgerReadings := ⟨sampleNow, fun _ => sampleNow⟩

def registerCall (mandate : IntentMandateV1) (publicKey : Bytes) : Call :=
  .register mandate publicKey ledgerReadings 1000

def consumeCall (proposal : ProposalV1) (cart : CartMandateV1) : Call :=
  .consume proposal cart merchantKey "aegisledger-gateway".toList ledgerReadings 1000

def rootLedger : MandateLedger := MandateLedger.empty.enter rootId rootMandate

def firstLedger : MandateLedger := rootLedger.enter firstId firstMandate

def firstCharged : MandateLedger :=
  firstLedger.charge firstId 100 (hexLiteral 64 firstCartHash) firstCart

theorem rootMandate_registers :
    MandateLedger.empty.perform mandateHost (registerCall rootMandate ownerKey) =
      .ok rootLedger := by
  decide +kernel

theorem firstMandate_registers :
    rootLedger.perform mandateHost (registerCall firstMandate agentKey) = .ok firstLedger := by
  decide +kernel

theorem firstCart_charges :
    firstLedger.perform mandateHost (consumeCall firstPurchase firstCart) =
      .ok firstCharged := by
  decide +kernel

def purchaseTrace : List Event :=
  [⟨registerCall rootMandate ownerKey, true⟩, ⟨registerCall firstMandate agentKey, true⟩,
    ⟨consumeCall firstPurchase firstCart, true⟩]

theorem purchaseTrace_run {condition : MandateLedger → Event → Prop}
    (hroot : condition .empty ⟨registerCall rootMandate ownerKey, true⟩)
    (hfirst : condition rootLedger ⟨registerCall firstMandate agentKey, true⟩)
    (hcart : condition firstLedger ⟨consumeCall firstPurchase firstCart, true⟩) :
    Run (fun ledger event after => Step mandateHost ledger event after ∧
      condition ledger event) .empty purchaseTrace firstCharged :=
  .snoc (.snoc (.snoc .refl ⟨.returns rootMandate_registers, hroot⟩)
    ⟨.returns firstMandate_registers, hfirst⟩) ⟨.returns firstCart_charges, hcart⟩

/-! ## The budget of one mandate -/

theorem registrations_append (trace later : List Event) :
    registrations (trace ++ later) = registrations trace ++ registrations later :=
  List.filterMap_append

/-- Everything that the carts of successful consumes charged to a mandate. -/
def charged (trace : List Event) (mandateId : Uuid) : Nat :=
  total (fun id => decide (id = mandateId)) (charges trace)

theorem consumed_eq_charged (hacc : Accounted trace ledger) (mandateId : Uuid) :
    ledger.consumed mandateId = charged trace mandateId := by
  rw [charged, ← hacc.tally, total_eq]
  rfl

/-- An identifier is registered again only while nothing is consumed under it, and with no
larger a budget. -/
def KeepsBudget (ledger : MandateLedger) : Event → Prop
  | ⟨.register mandate _ _ _, true⟩ => ∀ mandateId earlier,
      mandate.mandateId = some mandateId → ledger.mandates.get? mandateId = some earlier →
      ledger.consumed mandateId = 0 ∧
        mandate.maximumAmount.val ≤ earlier.maximumAmount.val
  | _ => True

structure WithinBudget (trace : List Event) (ledger : MandateLedger) : Prop
    extends Accounted trace ledger where
  /-- The mandate in the ledger has the smallest budget of those registered under its
  identifier. -/
  smallest : ∀ {mandateId mandate}, (mandateId, mandate) ∈ registrations trace →
    ∃ current, ledger.mandates.get? mandateId = some current ∧
      current.maximumAmount.val ≤ mandate.maximumAmount.val
  bounded : ∀ {mandateId mandate}, ledger.mandates.get? mandateId = some mandate →
    ledger.consumed mandateId ≤ mandate.maximumAmount.val

theorem withinBudget_empty : WithinBudget [] .empty where
  toAccounted := accounted_empty
  smallest := by
    intro mandateId mandate hmem
    cases hmem
  bounded := by
    intro mandateId mandate _
    exact Nat.zero_le _

theorem WithinBudget.same (hwithin : WithinBudget trace ledger)
    (hmandates : after.mandates = ledger.mandates) (hspent : after.spent = ledger.spent)
    (hcharges : charges [event] = []) (hregistrations : registrations [event] = []) :
    WithinBudget (trace ++ [event]) after where
  toAccounted := hwithin.toAccounted.same hmandates hspent hcharges
  smallest := by
    intro mandateId mandate hmem
    rw [registrations_append, hregistrations, List.append_nil] at hmem
    rw [hmandates]
    exact hwithin.smallest hmem
  bounded := by
    rw [hmandates]
    intro mandateId mandate hget
    rw [consumed, hspent]
    exact hwithin.bounded hget

theorem WithinBudget.enter (hwithin : WithinBudget trace ledger)
    (hid : mandate.mandateId = some mandateId)
    (hkeeps : KeepsBudget ledger ⟨.register mandate publicKey readings stack, true⟩) :
    WithinBudget (trace ++ [⟨.register mandate publicKey readings stack, true⟩])
      (ledger.enter mandateId mandate) := by
  have hzero : ledger.consumed mandateId = 0 := by
    cases hget : ledger.mandates.get? mandateId with
    | none =>
      rw [consumed, hwithin.unregistered hget]
      rfl
    | some earlier => exact (hkeeps mandateId earlier hid hget).1
  constructor
  · exact hwithin.toAccounted.enter hid hzero
  · intro otherId other hmem
    have hlast : registrations [⟨.register mandate publicKey readings stack, true⟩] =
        [(mandateId, mandate)] := by
      simp [registrations, hid]
    rw [registrations_append, hlast, List.mem_append, List.mem_singleton, Prod.mk.injEq] at hmem
    rw [get?_enter]
    by_cases hsame : otherId = mandateId
    · rw [if_pos hsame]
      rcases hmem with hmem | ⟨_, rfl⟩
      · obtain ⟨current, hcurrent, hle⟩ := hwithin.smallest hmem
        rw [hsame] at hcurrent
        have hsmaller := (hkeeps mandateId current hid hcurrent).2
        exact ⟨mandate, rfl, by omega⟩
      · exact ⟨other, rfl, le_refl _⟩
    · rw [if_neg hsame]
      rcases hmem with hmem | ⟨heq, _⟩
      · exact hwithin.smallest hmem
      · exact absurd heq hsame
  · intro otherId other hget
    rw [get?_enter] at hget
    rw [consumed_enter]
    by_cases hsame : otherId = mandateId
    · rw [if_pos hsame]
      exact Nat.zero_le _
    · rw [if_neg hsame] at hget ⊢
      exact hwithin.bounded hget

theorem WithinBudget.charge (hwithin : WithinBudget trace ledger)
    (h : ledger.consume host proposal cart merchantPublicKey audience readings stack =
      .ok after) :
    WithinBudget (trace ++
      [⟨.consume proposal cart merchantPublicKey audience readings stack, true⟩]) after := by
  obtain ⟨mandate, spent, hget, _, hbudget, hmandates, hafter⟩ :=
    hwithin.toAccounted.consume_cases h
  constructor
  · exact hwithin.toAccounted.charge h
  · intro otherId other hmem
    rw [registrations_append] at hmem
    rcases List.mem_append.mp hmem with hmem | hmem
    · rw [hmandates]
      exact hwithin.smallest hmem
    · cases hmem
  · intro otherId other hother
    rw [hmandates] at hother
    rw [consumed, hafter, get?_set]
    by_cases hne : otherId = cart.mandateId
    · rw [hne, hget, Option.some.injEq] at hother
      rw [if_pos hne, Option.getD_some, ← hother]
      exact hbudget
    · rw [if_neg hne]
      exact hwithin.bounded hother

theorem withinBudget_step (hwithin : WithinBudget trace ledger)
    (hstep : Step host ledger event after) (hkeeps : KeepsBudget ledger event) :
    WithinBudget (trace ++ [event]) after := by
  rcases step_cases hstep with ⟨hmandates, hspent, hcharges, hregistrations⟩ |
    ⟨mandate, publicKey, readings, stack, mandateId, rfl, hid, rfl⟩ |
    ⟨proposal, cart, merchantPublicKey, audience, readings, stack, rfl, hconsume⟩
  · exact hwithin.same hmandates hspent hcharges hregistrations
  · exact hwithin.enter hid hkeeps
  · exact hwithin.charge hconsume

/-- In every run that registers no charged identifier again and never raises the budget
under one, the counter of a mandate is what its carts have charged, and that is within the
budget of every mandate ever registered under the identifier. -/
theorem mandate_chargedWithinBudget
    (hrun : Run (fun ledger event after => Step host ledger event after ∧
      KeepsBudget ledger event) .empty trace ledger) (mandateId : Uuid) :
    ledger.consumed mandateId = charged trace mandateId ∧
      ∀ mandate, (mandateId, mandate) ∈ registrations trace →
        charged trace mandateId ≤ mandate.maximumAmount.val := by
  have hwithin : WithinBudget trace ledger :=
    hrun.invariant withinBudget_empty fun _ hwithin hstep =>
      withinBudget_step hwithin hstep.1 hstep.2
  have hcounter := consumed_eq_charged hwithin.toAccounted mandateId
  refine ⟨hcounter, ?_⟩
  intro mandate hmem
  obtain ⟨current, hcurrent, hle⟩ := hwithin.smallest hmem
  have hbounded := hwithin.bounded hcurrent
  omega

theorem purchaseTrace_chargedWithinBudget :
    firstCharged.consumed firstId = charged purchaseTrace firstId ∧
      ∀ mandate, (firstId, mandate) ∈ registrations purchaseTrace →
        charged purchaseTrace firstId ≤ mandate.maximumAmount.val := by
  apply mandate_chargedWithinBudget (purchaseTrace_run ?_ ?_ trivial)
  · intro mandateId earlier _ hearlier
    exact absurd hearlier (by simp [MandateLedger.empty])
  · intro mandateId earlier hid hearlier
    have hfirst : mandateId = firstId := (Option.some.inj hid).symm
    have hfresh : rootLedger.mandates.get? firstId = none := by decide +kernel
    rw [hfirst, hfresh] at hearlier
    cases hearlier

def renewedLedger : MandateLedger := firstCharged.enter firstId renewedMandate

def renewedCharged : MandateLedger :=
  renewedLedger.charge firstId 100 (hexLiteral 64 renewedCartHash) renewedCart

theorem renewedMandate_registers :
    firstCharged.perform mandateHost (registerCall renewedMandate agentKey) =
      .ok renewedLedger := by
  decide +kernel

theorem renewedCart_charges :
    renewedLedger.perform mandateHost (consumeCall secondPurchase renewedCart) =
      .ok renewedCharged := by
  decide +kernel

/-- The charged mandate is registered again under its identifier, and charged again. -/
def renewedTrace : List Event :=
  [⟨registerCall rootMandate ownerKey, true⟩, ⟨registerCall firstMandate agentKey, true⟩,
    ⟨consumeCall firstPurchase firstCart, true⟩, ⟨registerCall renewedMandate agentKey, true⟩,
    ⟨consumeCall secondPurchase renewedCart, true⟩]

theorem renewedTrace_overspends :
    Run (Step mandateHost) .empty renewedTrace renewedCharged ∧
      renewedCharged.consumed firstId ≠ charged renewedTrace firstId ∧
      (firstId, firstMandate) ∈ registrations renewedTrace ∧
      ¬ charged renewedTrace firstId ≤ firstMandate.maximumAmount.val := by
  have hcharged : charged renewedTrace firstId = 200 := by decide +kernel
  refine ⟨.snoc (.snoc (.snoc (.snoc (.snoc .refl (.returns rootMandate_registers))
    (.returns firstMandate_registers)) (.returns firstCart_charges))
    (.returns renewedMandate_registers)) (.returns renewedCart_charges), ?_, ?_, ?_⟩
  · rw [hcharged]
    decide +kernel
  · exact List.mem_cons_of_mem _ List.mem_cons_self
  · rw [hcharged]
    decide

/-! ## The budget of a tree of mandates -/

section Tree

open scoped Classical

/-- The parent of a mandate, as the ledger has it now. -/
def parentOf (ledger : MandateLedger) (mandateId : Uuid) : Option Uuid :=
  (ledger.mandates.get? mandateId).bind IntentMandateV1.parentMandateId

/-- Weight of the entries for a mandate and for those that descend from it. -/
noncomputable def subtreeTotal (ledger : MandateLedger) (mandateId : Uuid)
    (entries : List (Uuid × Nat)) : Nat :=
  total (fun id => decide (Descends (parentOf ledger) id mandateId)) entries

/-- A consume fits what every mandate above the charged one, and that mandate itself, has
left after everything consumed below it; an identifier is registered again only while
nothing is consumed under it or below it. -/
def FitsSubtrees (ledger : MandateLedger) : Event → Prop
  | ⟨.register mandate _ _ _, true⟩ => ∀ mandateId, mandate.mandateId = some mandateId →
      ∀ id, Descends (parentOf ledger) id mandateId → ledger.consumed id = 0
  | ⟨.consume _ cart _ _ _ _, true⟩ => ∀ mandateId mandate,
      ledger.mandates.get? mandateId = some mandate →
      Descends (parentOf ledger) cart.mandateId mandateId →
      subtreeTotal ledger mandateId ledger.spent.entries + cart.amount.val ≤
        mandate.maximumAmount.val
  | _ => True

structure TreesWithinBudget (trace : List Event) (ledger : MandateLedger) : Prop
    extends Accounted trace ledger where
  bounded : ∀ {mandateId mandate}, ledger.mandates.get? mandateId = some mandate →
    subtreeTotal ledger mandateId (charges trace) ≤ mandate.maximumAmount.val

theorem Accounted.subtreeTotal_eq (hacc : Accounted trace ledger) (other : MandateLedger)
    (mandateId : Uuid) :
    subtreeTotal other mandateId ledger.spent.entries =
      subtreeTotal other mandateId (charges trace) :=
  hacc.tally _

theorem subtreeTotal_congr (hmandates : after.mandates = ledger.mandates) (mandateId : Uuid)
    (entries : List (Uuid × Nat)) :
    subtreeTotal after mandateId entries = subtreeTotal ledger mandateId entries := by
  have hparent : parentOf after = parentOf ledger := by
    ext1 id
    rw [parentOf, parentOf, hmandates]
  rw [subtreeTotal, subtreeTotal, hparent]

theorem TreesWithinBudget.same {event : Event} (htrees : TreesWithinBudget trace ledger)
    (hmandates : after.mandates = ledger.mandates) (hspent : after.spent = ledger.spent)
    (hcharges : charges [event] = []) : TreesWithinBudget (trace ++ [event]) after where
  toAccounted := htrees.toAccounted.same hmandates hspent hcharges
  bounded := by
    intro mandateId mandate hget
    rw [hmandates] at hget
    rw [subtreeTotal_congr hmandates, charges_append, hcharges, List.append_nil]
    exact htrees.bounded hget

variable {mandate : IntentMandateV1} {mandateId : Uuid}

/-- A chain that a registration creates starts at a mandate below the registered one. -/
theorem descends_of_enter {id above : Uuid}
    (h : Descends (parentOf (ledger.enter mandateId mandate)) id above) :
    Descends (parentOf ledger) id above ∨ Descends (parentOf ledger) id mandateId := by
  refine Descends.of_update ?_ h
  intro other hne
  rw [parentOf, parentOf, get?_enter, if_neg hne]

theorem subtreeTotal_enter_le
    (hzero : ∀ id, Descends (parentOf ledger) id mandateId → ledger.consumed id = 0)
    (above : Uuid) :
    subtreeTotal (ledger.enter mandateId mandate) above ledger.spent.entries ≤
      subtreeTotal ledger above ledger.spent.entries := by
  apply total_le_of_imp
  intro e he hbelow
  rw [decide_eq_true_eq] at hbelow ⊢
  rcases descends_of_enter hbelow with hold | hcharged
  · exact Or.inl hold
  · right
    have hconsumed := hzero _ hcharged
    rw [consumed, get?_of_mem_entries he] at hconsumed
    exact hconsumed

theorem subtreeTotal_eq_zero
    (hzero : ∀ id, Descends (parentOf ledger) id mandateId → ledger.consumed id = 0) :
    subtreeTotal ledger mandateId ledger.spent.entries = 0 := by
  have hle : subtreeTotal ledger mandateId ledger.spent.entries ≤
      total (fun _ => false) ledger.spent.entries := by
    apply total_le_of_imp
    intro e he hbelow
    rw [decide_eq_true_eq] at hbelow
    have hconsumed := hzero _ hbelow
    rw [consumed, get?_of_mem_entries he] at hconsumed
    exact Or.inr hconsumed
  have hnone : total (fun _ => false) ledger.spent.entries = 0 := by
    simp [total]
  omega

theorem TreesWithinBudget.enter {publicKey : Bytes} {readings : LedgerReadings} {stack : Nat}
    (htrees : TreesWithinBudget trace ledger) (hid : mandate.mandateId = some mandateId)
    (hzero : ∀ id, Descends (parentOf ledger) id mandateId → ledger.consumed id = 0) :
    TreesWithinBudget (trace ++ [⟨.register mandate publicKey readings stack, true⟩])
      (ledger.enter mandateId mandate) where
  toAccounted := htrees.toAccounted.enter hid (hzero mandateId (Descends.refl _ _))
  bounded := by
    intro above other hget
    have hcharges : charges [⟨.register mandate publicKey readings stack, true⟩] = [] := rfl
    have hle : subtreeTotal (ledger.enter mandateId mandate) above ledger.spent.entries ≤
        subtreeTotal ledger above ledger.spent.entries := subtreeTotal_enter_le hzero above
    rw [charges_append, hcharges, List.append_nil, ← htrees.toAccounted.subtreeTotal_eq]
    by_cases hsame : above = mandateId
    · rw [hsame, subtreeTotal_eq_zero hzero] at hle
      rw [hsame]
      omega
    · rw [get?_enter, if_neg hsame] at hget
      have hbounded := htrees.bounded hget
      rw [← htrees.toAccounted.subtreeTotal_eq] at hbounded
      omega

theorem TreesWithinBudget.charge {proposal : ProposalV1} {cart : CartMandateV1}
    {merchantPublicKey : Bytes} {audience : Str} {readings : LedgerReadings} {stack : Nat}
    (htrees : TreesWithinBudget trace ledger)
    (h : ledger.consume host proposal cart merchantPublicKey audience readings stack =
      .ok after)
    (hfits : FitsSubtrees ledger
      ⟨.consume proposal cart merchantPublicKey audience readings stack, true⟩) :
    TreesWithinBudget (trace ++
      [⟨.consume proposal cart merchantPublicKey audience readings stack, true⟩]) after := by
  obtain ⟨_, _, _, _, _, hmandates, _⟩ := htrees.toAccounted.consume_cases h
  refine ⟨htrees.toAccounted.charge h, ?_⟩
  intro above mandate hget
  rw [hmandates] at hget
  have hcharges : charges [⟨.consume proposal cart merchantPublicKey audience readings stack,
      true⟩] = [(cart.mandateId, cart.amount.val)] := rfl
  rw [subtreeTotal_congr hmandates, charges_append, hcharges, subtreeTotal, total_append,
    total_singleton]
  have hbefore := htrees.bounded hget
  by_cases hbelow : Descends (parentOf ledger) cart.mandateId above
  · have hroom := hfits above mandate hget hbelow
    rw [htrees.toAccounted.subtreeTotal_eq] at hroom
    rw [if_pos (decide_eq_true hbelow)]
    exact hroom
  · rw [if_neg (by rw [decide_eq_true_eq]; exact hbelow)]
    exact hbefore

end Tree

end AegisLedger.Gateway.MandateBudget
