import AegisLedger.Account.Calls

/-!
# Token transfers the account makes

An ERC-20 `transfer` can leave the account through two operations.  `ERC20Transfer`
decodes the calldata and compares recipient and amount with the execution that was
checked and charged.  `ContractCall` compares neither, and nothing keeps it away from
an allowed asset.
-/

namespace AegisLedger.Account.TransferBinding

open AegisLedger.Support Checks

/-! ## Inversion of `execute` -/

theorem toNat_of_checkedAdd {w : Nat} {a b c : BitVec w} (h : checkedAdd a b = .ok c) :
    c.toNat = a.toNat + b.toNat := by
  unfold checkedAdd at h
  split_ifs at h with hfits
  rw [Except.ok.injEq] at h
  rw [← h, BitVec.toNat_add, Nat.mod_eq_of_lt hfits]

/-- Charging a session writes only the session, and adds exactly the amount. -/
structure Charges (d : Deployment) (state charged : State) (signer : Address)
    (amount : Word) : Prop where
  totalSpent : charged.totalSpent = state.totalSpent
  session : signer ≠ d.owner → (charged.sessionKeys signer).spent.toNat =
    (state.sessionKeys signer).spent.toNat + amount.toNat
  executing : charged.executing = state.executing

variable {state : State} {message : Message}

theorem charges_of_chargeSession {d : Deployment} {charged : State} {signer : Address}
    {amount : Word} (h : chargeSession d state message signer amount = .ok charged) :
    Charges d state charged signer amount := by
  unfold chargeSession at h
  split_ifs at h with howner
  · rw [pure_eq_ok] at h
    rw [← h]
    exact ⟨rfl, fun hne => absurd howner hne, rfl⟩
  · dsimp only at h
    rw [raiseIf_bind_eq_ok, bind_eq_ok] at h
    obtain ⟨_, wide, hwide, h⟩ := h
    rw [raiseIf_bind_eq_ok, bind_eq_ok] at h
    obtain ⟨hbudget, spent, hspent, h⟩ := h
    rw [pure_eq_ok] at h
    have hsum := toNat_of_checkedAdd hwide
    have hnarrow : (amount.setWidth 128).toNat = amount.toNat := by
      have hlimit := (state.sessionKeys signer).budget.isLt
      rw [BitVec.toNat_setWidth, Nat.mod_eq_of_lt]
      omega
    rw [← h]
    refine ⟨rfl, fun _ => ?_, rfl⟩
    dsimp only
    rw [Function.update_self, toNat_of_checkedAdd hspent, hnarrow]

/-- What `execute` has established when it calls its target. -/
structure Authorized (evm : Evm) (d : Deployment) (state : State) (message : Message)
    (execution : Execution) (authorization : Authorization) : Prop where
  nonce : execution.nonce = state.nonce
  capped : execution.amount.toNat ≤ d.perTransactionCap.toNat
  recipient : state.allowedRecipients execution.recipient = true
  operation : validateOperation state message execution = .ok ()
  totalSpent : authorization.charged.totalSpent.toNat =
    state.totalSpent.toNat + execution.amount.toNat
  session : authorization.signer ≠ d.owner →
    (authorization.charged.sessionKeys authorization.signer).spent.toNat =
      (state.sessionKeys authorization.signer).spent.toNat + execution.amount.toNat
  executing : authorization.charged.executing = state.executing

variable {execution : Execution}

theorem authorized_of_authorize {evm : Evm} {d : Deployment} {signature : Bytes}
    {authorization : Authorization}
    (h : authorize evm d state message execution signature = .ok authorization) :
    Authorized evm d state message execution authorization := by
  unfold authorize at h
  simp only [raiseIf_bind_eq_ok] at h
  obtain ⟨_, _, hnonce, hcap, h⟩ := h
  rw [bind_eq_ok] at h
  obtain ⟨total, _, h⟩ := h
  simp only [raiseIf_bind_eq_ok] at h
  obtain ⟨_, hrecipient, h⟩ := h
  simp only [bind_eq_ok, pure_eq_ok] at h
  obtain ⟨_, hoperation, signer, _, charged, hcharge, nonce, _, totalSpent, htotal, h⟩ := h
  have hcharges := charges_of_chargeSession hcharge
  rw [← h]
  refine ⟨not_not.mp hnonce, Nat.le_of_not_lt hcap, Bool.eq_true_of_not_eq_false hrecipient,
    hoperation, ?_, hcharges.session, hcharges.executing⟩
  rw [toNat_of_checkedAdd htotal, hcharges.totalSpent]

theorem decodes_of_validateOperation (herc20 : execution.operation = .erc20Transfer)
    (h : validateOperation state message execution = .ok ()) :
    abiDecodeTransfer (execution.data.drop 4) =
      some (execution.recipient, execution.amount) := by
  unfold validateOperation at h
  simp only [herc20, raiseIf_bind_eq_ok, if_true, orRaise_bind_eq_ok, raiseIf_eq_ok, not_or,
    not_not] at h
  obtain ⟨_, _, _, _, _, _, ⟨recipient, amount⟩, hdecode, hrecipient, hamount⟩ := h
  dsimp only at hrecipient hamount
  rw [hdecode, hrecipient, hamount]

theorem data_of_nativeTransfer (hnative : execution.operation = .nativeTransfer)
    (h : validateOperation state message execution = .ok ()) : execution.data = [] := by
  unfold validateOperation at h
  simp only [hnative, raiseIf_eq_ok, not_or, not_not] at h
  exact List.length_eq_zero_iff.mp h.2.2.2.1

/-! ## The transfer in the calldata -/

section Execute

variable {evm : Evm} {d : Deployment} {state final : State} {message : Message}
  {execution : Execution} {signature : Bytes} {callee : Script} {success : Bool}
  {returnData result : Bytes}

/-- An `execute` from outside, whose target runs `callee`. -/
def executeFrom (evm : Evm) (d : Deployment) (state : State) (message : Message)
    (execution : Execution) (signature : Bytes) (callee : Script) (success : Bool)
    (returnData : Bytes) : Except Revert (State × Bytes) :=
  transact evm d state message (.execute execution signature)
    (lowLevelCall evm d message.timestamp (interact evm d message.timestamp callee) success
      returnData)

/-- The state `execute` checks: the value has arrived and the guard is set. -/
def entered (state : State) (message : Message) : State :=
  { state.credited message with executing := true }

theorem authorize_of_executeFrom
    (h : executeFrom evm d state message execution signature callee success returnData =
      .ok (final, result)) :
    ∃ authorization,
      authorize evm d (entered state message) message execution signature =
        .ok authorization ∧
      final.totalSpent = authorization.charged.totalSpent := by
  obtain ⟨authorization, hauthorize, -, events, rfl⟩ := execute_eq_ok h
  refine ⟨authorization, hauthorize, ?_⟩
  have hexecuting : authorization.charged.executing = true :=
    (authorized_of_authorize hauthorize).executing
  have hwaiting : Waiting authorization.charged.nonce authorization.charged.totalSpent
      (lowLevelCall evm d message.timestamp (interact evm d message.timestamp callee) success
        returnData execution authorization.charged).state :=
    waiting_lowLevelCall ⟨hexecuting, rfl, rfl⟩
  exact hwaiting.2.2

/-- The token transfer in the calldata is the one that was checked and charged: its
recipient is allowed and is the one of the execution, and its amount is within the cap
and was added to the total and, when the target is called, to the signer's session. -/
def TransferBound (evm : Evm) (d : Deployment) (state final : State) (message : Message)
    (execution : Execution) (signature : Bytes) : Prop :=
  ∃ recipient amount,
    abiDecodeTransfer (execution.data.drop 4) = some (recipient, amount) ∧
    state.allowedRecipients recipient = true ∧ recipient = execution.recipient ∧
    amount = execution.amount ∧ amount.toNat ≤ d.perTransactionCap.toNat ∧
    final.totalSpent.toNat = state.totalSpent.toNat + amount.toNat ∧
    ∀ authorization, authorize evm d (entered state message) message execution signature =
        .ok authorization → authorization.signer ≠ d.owner →
      (authorization.charged.sessionKeys authorization.signer).spent.toNat =
        (state.sessionKeys authorization.signer).spent.toNat + amount.toNat

theorem transferBound_of_decode
    (h : executeFrom evm d state message execution signature callee success returnData =
      .ok (final, result))
    (hdecode : abiDecodeTransfer (execution.data.drop 4) =
      some (execution.recipient, execution.amount)) :
    TransferBound evm d state final message execution signature := by
  obtain ⟨authorization, hauthorize, hfinal⟩ := authorize_of_executeFrom h
  have hauthorized := authorized_of_authorize hauthorize
  refine ⟨execution.recipient, execution.amount, hdecode, hauthorized.recipient, rfl, rfl,
    hauthorized.capped, ?_, ?_⟩
  · rw [hfinal, hauthorized.totalSpent]
    rfl
  · intro other hother
    exact (authorized_of_authorize hother).session

/-- The calldata starts with `ERC20_TRANSFER_SELECTOR`. -/
def StartsTransfer (data : Bytes) : Prop := [0xa9, 0x05, 0x9c, 0xbb] <+: data

/-- A successful call of `transfer`, on an allowed asset or any other target, moves what
was checked and charged exactly when it went through `ERC20Transfer`, or its calldata
happens to encode the recipient and amount of the execution. -/
theorem executedTransfer_bound_iff
    (hexecute : executeFrom evm d state message execution signature callee success
      returnData = .ok (final, result))
    (htransfer : StartsTransfer execution.data) :
    TransferBound evm d state final message execution signature ↔
      execution.operation ≠ .contractCall ∨
        abiDecodeTransfer (execution.data.drop 4) =
          some (execution.recipient, execution.amount) := by
  constructor
  · rintro ⟨recipient, amount, hdecode, _, hrecipient, hamount, _⟩
    right
    rw [hdecode, hrecipient, hamount]
  · rintro (hoperation | hdecode)
    · obtain ⟨authorization, hauthorize, _⟩ := authorize_of_executeFrom hexecute
      have hvalid := (authorized_of_authorize hauthorize).operation
      cases hcase : execution.operation with
      | nativeTransfer =>
        rw [StartsTransfer, data_of_nativeTransfer hcase hvalid] at htransfer
        exact absurd htransfer (by simp)
      | erc20Transfer =>
        exact transferBound_of_decode hexecute (decodes_of_validateOperation hcase hvalid)
      | contractCall => exact absurd hcase hoperation
    · exact transferBound_of_decode hexecute hdecode

end Execute

/-! ## Sample executions

A session key with a budget of 1000 on an account that allows one token and one
recipient.  Digests and signatures are real ones. -/

def token : Address := 0x7070707070707070707070707070707070707070

def payee : Address := 0x3434343434343434343434343434343434343434

def stranger : Address := 0x9999999999999999999999999999999999999999

def sessionKey : Address := 0x0600572494d76a856dc9fc91d695743977b6f44d

def sampleDeployment : Deployment where
  chainId := 31337
  self := 0xacacacacacacacacacacacacacacacacacacacac
  owner := 0x8e7901a83c692203c51e821b8e354fb9da425a01
  perTransactionCap := 1000
  lifetimeCap := 10000
  ownerNonzero := by decide
  capNonzero := by decide
  capWithinLifetime := by decide

def transferData (recipient : Address) (amount : Nat) : Bytes :=
  bigEndian 4 0xa9059cbb ++ abiEncode [recipient.toNat, amount]

/-- 100 tokens to the payee, as an ERC-20 transfer. -/
def boundExecution : Execution where
  operation := .erc20Transfer
  target := token
  value := 0
  data := transferData payee 100
  asset := token
  amount := 100
  recipient := payee
  nonce := 0
  deadline := 2000

def boundSignature : Bytes := abiEncode [
  0x6db80e5e13f89700e57ac9bf904296ca0191621e3ac9389802af7b40fe310336,
  0x5bae7edd14187af0ca2715d599622b02b5663aef70a99c21c23b36248596925f] ++ [0]

/-- A contract call that moves `10 ^ 18` tokens to a stranger and is charged nothing. -/
def freeExecution : Execution where
  operation := .contractCall
  target := token
  value := 0
  data := transferData stranger (10 ^ 18)
  asset := 0
  amount := 0
  recipient := payee
  nonce := 0
  deadline := 2000

def freeSignature : Bytes := abiEncode [
  0x6b4bd36a3a45da3f1fe2360e218d362ae81092a2ec66b70b5c2ba982eab1373d,
  0x26545c22571328c95a47f3cd0aedfffc58cfc184947aa0640851e7b387688fb4] ++ [0]

def typehash : Nat := 0x2baedb0b25a6b80fa4e1f9be64ba569abd8bc005b9260f4073890e866514e162

def domain : Nat := 0xea6848afdee6908010a57f12f8d10da7ffaf4984793af2ca49d9790359680ef6

def digests : List (Bytes × Nat) := [
  (ascii "1", 0xc89efdaa54c0f20c7adf612882df0950f5a951637e0307cdcb4c672f298b8bc6),
  (ascii "AegisSmartAccount",
    0x622761f94fa6303400ddc5e9e60a71c05370b6dcaae3e3208c3a19d577572855),
  (domainType, 0x8b73c3c69bb8fe3d512ecc4cf759cc79239f7b179b0ffacaa9a75d522b39400f),
  (executionType, typehash),
  (abiEncode [0x8b73c3c69bb8fe3d512ecc4cf759cc79239f7b179b0ffacaa9a75d522b39400f,
    0x622761f94fa6303400ddc5e9e60a71c05370b6dcaae3e3208c3a19d577572855,
    0xc89efdaa54c0f20c7adf612882df0950f5a951637e0307cdcb4c672f298b8bc6,
    31337, 0xacacacacacacacacacacacacacacacacacacacac], domain),
  (transferData payee 100,
    0x3abb17abaa89f8be9bcf1c6cfc2d3306de236b1f13222f62db4558598e8f8a8d),
  (abiEncode [typehash, 1, token.toNat, 0,
    0x3abb17abaa89f8be9bcf1c6cfc2d3306de236b1f13222f62db4558598e8f8a8d, token.toNat, 100,
    payee.toNat, 0, 2000],
    0xe6bde301154276d981e8a0086f1c4bcc998044cab9ebb6d9253491d3277293a7),
  ([0x19, 0x01] ++ abiEncode [domain,
    0xe6bde301154276d981e8a0086f1c4bcc998044cab9ebb6d9253491d3277293a7],
    0xb53b893982bb2e4b9343810c0bb2abd20832732cbb5621ba9abcc04623a8f547),
  (transferData stranger (10 ^ 18),
    0x047f463197b362122f77f7978c3555c3019f7c116c25b00acb694b38a7fb9d77),
  (abiEncode [typehash, 2, token.toNat, 0,
    0x047f463197b362122f77f7978c3555c3019f7c116c25b00acb694b38a7fb9d77, 0, 0,
    payee.toNat, 0, 2000],
    0xc007b4f90880e34ce561d70117d32aee136af246eac4e92b1717bcf05f18c368),
  ([0x19, 0x01] ++ abiEncode [domain,
    0xc007b4f90880e34ce561d70117d32aee136af246eac4e92b1717bcf05f18c368],
    0x5665c07d566d3e273dbb5090d265c9aa61a6ce6b108d50d3d0b99c2483d2d396)]

/-- The digests above, and the signer of the two signatures. -/
def sampleEvm : Evm where
  keccak256 := fun data =>
    match digests.find? (fun entry => entry.1 = data) with
    | some entry => BitVec.ofNat 256 entry.2
    | none => 0
  ecrecover := fun digest v r s =>
    if v = 27 ∧
        ((digest = 0xb53b893982bb2e4b9343810c0bb2abd20832732cbb5621ba9abcc04623a8f547 ∧
            r = wordAt boundSignature 0 ∧ s = wordAt boundSignature 32) ∨
          (digest = 0x5665c07d566d3e273dbb5090d265c9aa61a6ce6b108d50d3d0b99c2483d2d396 ∧
            r = wordAt freeSignature 0 ∧ s = wordAt freeSignature 32)) then sessionKey
    else 0
  decodeCall := fun _ => none
  encodeRevert := fun _ => []

/-- A call by the owner. -/
def byOwner (request : Request) (rest : Script) : Script :=
  .call sampleDeployment.owner 0 request .done true [] rest

/-- The owner allows the token, its `transfer`, the payee and the session key. -/
def setup : Script :=
  byOwner (.setAsset token true) <| byOwner (.setTarget token true) <|
    byOwner (.setSelector token erc20TransferSelector true) <|
    byOwner (.setRecipient payee true) <| byOwner (.grantSessionKey sessionKey 1000 5000) .done

def sampleState : State := interact sampleEvm sampleDeployment 1000 setup (.deployed 0)

/-- Anyone may relay a signed execution. -/
def relayed : Message := ⟨stranger, 0, 1500⟩

theorem boundExecution_bound :
    ∃ final, TransferBound sampleEvm sampleDeployment sampleState final relayed boundExecution
      boundSignature := by
  have hok : (executeFrom sampleEvm sampleDeployment sampleState relayed boundExecution
      boundSignature .done true []).isOk = true := by
    decide +kernel
  obtain ⟨⟨final, result⟩, hexecute⟩ := exists_eq_ok hok
  have htransfer : StartsTransfer boundExecution.data :=
    ⟨abiEncode [payee.toNat, 100], by decide +kernel⟩
  exact ⟨final, (executedTransfer_bound_iff hexecute htransfer).mpr (Or.inl (by decide))⟩

theorem sampleState_reachable : Reachable sampleEvm sampleDeployment sampleState := by
  refine ⟨0, [(1000, setup)], ?_⟩
  exact Run.snoc Run.refl rfl

/-- The session key moves `10 ^ 18` tokens to a stranger with a contract call that is
charged nothing, on a token whose transfers the account means to bind. -/
theorem freeExecution_unbound :
    Reachable sampleEvm sampleDeployment sampleState ∧
      StartsTransfer freeExecution.data ∧
      sampleState.allowedAssets freeExecution.target = true ∧
      ∃ final result,
        executeFrom sampleEvm sampleDeployment sampleState relayed freeExecution freeSignature
          .done true [] = .ok (final, result) ∧
        ¬TransferBound sampleEvm sampleDeployment sampleState final relayed freeExecution
          freeSignature := by
  have hok : (executeFrom sampleEvm sampleDeployment sampleState relayed freeExecution
      freeSignature .done true []).isOk = true := by
    decide +kernel
  obtain ⟨⟨final, result⟩, hexecute⟩ := exists_eq_ok hok
  refine ⟨sampleState_reachable, ⟨abiEncode [stranger.toNat, 10 ^ 18], by decide +kernel⟩,
    by decide +kernel, final, result, hexecute, ?_⟩
  rintro ⟨recipient, amount, hdecode, _, hrecipient, _⟩
  have hstranger : abiDecodeTransfer (freeExecution.data.drop 4) =
      some (stranger, 0xde0b6b3a7640000) := by
    decide +kernel
  rw [hstranger, Option.some.injEq, Prod.mk.injEq] at hdecode
  rw [← hdecode.1] at hrecipient
  exact absurd hrecipient (by decide)

end AegisLedger.Account.TransferBinding
