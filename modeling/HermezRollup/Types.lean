import HermezRollup.Bytes
import HermezRollup.SparseMerkle
import Mathlib.Data.Nat.Pairing

/-! The basic types of the node (package `common`): account indexes, nonces, token identifiers,
Ethereum addresses and compressed Baby Jubjub keys, the transaction types, and the errors the node
returns together with their texts.

Account indexes, nonces and batch numbers are natural numbers with the bounds the code checks.  The Go
types `[20]byte` and `[32]byte` are kept as the numbers they stand for: an address is the big-endian
value of its bytes, a compressed key the little-endian one, which is how the node turns either into a
field element.  `*big.Int` values are integers, since they can be negative. -/

namespace HermezRollup

open Bytes

/-- The identifier of a token, as set in the smart contract (`uint32`). -/
abbrev TokenID := BitVec 32

/-- An Ethereum address, the big-endian value of its 20 bytes. -/
abbrev Address := BitVec 160

/-- A compressed Baby Jubjub public key, the little-endian value of its 32 bytes. -/
abbrev PublicKeyComp := BitVec 256

/-- The fee selector of an L2 transaction (`uint8`), an index into the fee plan. -/
abbrev FeeSelector := UInt8

/-- The largest account index (48 bits). -/
def maxIdxValue : Nat := 0xffffffffffff

/-- The largest nonce (40 bits). -/
def maxNonceValue : Nat := 0xffffffffff

/-- The smallest index a user account can have. -/
def userThreshold : Nat := 256

/-- The first 256 indexes are reserved, so the first account has index 256. -/
def rollupConstReservedIDx : Nat := 255

def rollupConstMaxFeeIdxCoordinator : Nat := 64

def rollupConstL1CoordinatorTotalBytes : Nat := 101

def rollupConstL1UserTotalBytes : Nat := 78

/-- The modulus of the scalar field of the proof system. -/
def rollupConstRfield : Nat :=
  21888242871839275222246405745257275088548364400416034343698204186575808495617

def emptyAddr : Address := 0

def ffAddr : Address := BitVec.allOnes 160

/-- The address of accounts that have only a Baby Jubjub key. -/
def rollupConstEthAddressInternalOnly : Address := ffAddr

def emptyBJJComp : PublicKeyComp := 0

/-- The type of a Hermez transaction.  The empty type of the Go code is the absence of one. -/
inductive TxType where
  | exit
  | transfer
  | deposit
  | createAccountDeposit
  | createAccountDepositTransfer
  | depositTransfer
  | forceTransfer
  | forceExit
  | transferToEthAddr
  | transferToBJJ
  deriving DecidableEq, Repr

namespace TxType

/-- The text of a transaction type, as it is stored and reported. -/
def text : TxType → String
  | exit => "Exit"
  | transfer => "Transfer"
  | deposit => "Deposit"
  | createAccountDeposit => "CreateAccountDeposit"
  | createAccountDepositTransfer => "CreateAccountDepositTransfer"
  | depositTransfer => "DepositTransfer"
  | forceTransfer => "ForceTransfer"
  | forceExit => "ForceExit"
  | transferToEthAddr => "TransferToEthAddr"
  | transferToBJJ => "TransferToBJJ"

end TxType

/-- The errors of the node.  `panic` and `indexOutOfRange` stand for a slice bound or index out of range,
which ends the goroutine instead of returning. -/
inductive Err where
  | notInFF
  | nonceOverflowsType
  | balanceOverflowsType
  | idxOverflow
  | nonceOverflow
  | float40Overflow
  | float40E31
  | float40NotEnoughPrecission
  | feeAmountOverflow
  | idxBytesLen (length : Nat)
  | tokenIDBytesLen (length : Nat)
  | l1UserTxBytesLen (length : Nat)
  | l1CoordinatorTxBytesLen (length : Nat)
  | l1TxInvalidToIdx (toIdx : Nat)
  | l1TxInvalidFromIdx (fromIdx : Nat)
  | l1TxType (computed given : TxType)
  | l1TxID (computed given : Bytes)
  | userTxWithoutQueue
  | coordinatorTxWithoutBatch
  | notACoordinatorTx
  | l2TxInvalidToIdx (toIdx : Nat)
  | malformedTransaction
  | invalidSignature
  | notFound
  | accountAlreadyExists
  | idxNotFound
  | idxNotFoundByEthAddr
  | getIdxNoCase
  | tokenIDsFromIdxs (idx : Nat)
  | notEnoughBalance (txID : Bytes) (type : Option TxType) (fromIdx toIdx : Nat) (amount : Int)
  | coordIdxNotInTree (tokenID : TokenID) (coordIdx : Nat)
  | zkiNotEmpty
  | coordIdxsLength (length maxFeeTx : Nat)
  | txsLength (nTx maxTx : Nat)
  | l1TxsLength (nL1Tx maxTx : Nat)
  | l2ToIdxZeroInSynchronizer
  | invalidRqOffset
  | tooManyFeeIdxs (length : Nat)
  | l2TxsDataLength (length expected : Nat)
  | authPublicKey
  | authAddrMismatch
  | coordIdxForTokenID (tokenID : TokenID) (due : String)
  | panic
  | indexOutOfRange
  deriving DecidableEq, Repr

/-- The hexadecimal text of a byte string. -/
def toHex (b : Bytes) : String :=
  "0x" ++ String.ofList (b.flatMap fun x => [Nat.digitChar (x.toNat / 16), Nat.digitChar (x.toNat % 16)])

namespace Err

def message : Err → String
  | notInFF => "BigInt not inside the Finite Field"
  | nonceOverflowsType => "Value overflows the type Nonce"
  | balanceOverflowsType => "Value overflows the type Balance"
  | idxOverflow => "Idx overflow, max value: 2**48 -1"
  | nonceOverflow => "Nonce overflow, max value: 2**40 -1"
  | float40Overflow => "Float40 overflow, max value: 2**40 -1"
  | float40E31 => "Float40 error, e > 31"
  | float40NotEnoughPrecission => "Float40 error, not enough precission"
  | feeAmountOverflow => "FeeAmount overflow (feeAmount doesn't fit in 128 bits)"
  | idxBytesLen length => "can not parse Idx, bytes len " ++ toString length ++ ", expected 6"
  | tokenIDBytesLen length => "can not parse TokenID, bytes len " ++ toString length ++ ", expected 4"
  | l1UserTxBytesLen length =>
    "Can not parse L1Tx bytes, expected length 68, current: " ++ toString length
  | l1CoordinatorTxBytesLen length =>
    "Can not parse L1CoordinatorTx bytes, expected length 101, current: " ++ toString length
  | l1TxInvalidToIdx toIdx =>
    "Can not determine type of L1Tx, invalid ToIdx value: " ++ toString toIdx
  | l1TxInvalidFromIdx fromIdx =>
    "Can not determine type of L1Tx, invalid FromIdx value: " ++ toString fromIdx
  | l1TxType computed given => "L1Tx.Type: " ++ computed.text ++ ", should be: " ++ given.text
  | l1TxID computed given => "L1Tx.TxID: " ++ toHex computed ++ ", should be: " ++ toHex given
  | userTxWithoutQueue => "L1Tx.UserOrigin == true && L1Tx.ToForgeL1TxsNum == nil"
  | coordinatorTxWithoutBatch => "L1Tx.UserOrigin == false && L1Tx.BatchNum == nil"
  | notACoordinatorTx => "Can not calculate BytesCoordinatorTx() for a L1UserTx"
  | l2TxInvalidToIdx toIdx =>
    "cannot determine type of L2Tx, invalid ToIdx value: " ++ toString toIdx
  | malformedTransaction => "malformed transaction"
  | invalidSignature => "invalid signature"
  | notFound => "key not found"
  | accountAlreadyExists => "Can not CreateAccount because Account already exists"
  | idxNotFound => "Idx can not be found"
  | idxNotFoundByEthAddr => "GetIdxByEthAddr: Idx can not be found"
  | getIdxNoCase =>
    "GetIdxByEthAddrBJJ: Not found, Can not get Idx due unexpected combination of ethereum Address & " ++
      "BabyJubJub PublicKey"
  | tokenIDsFromIdxs idx => "GetTokenIDsFromIdxs error on GetAccount with Idx==" ++ toString idx
  | notEnoughBalance txID type fromIdx toIdx amount =>
    "Invalid transaction, not enough balance on sender account. TxID: " ++ toHex txID ++ ", TxType: " ++
      (type.map TxType.text).getD "" ++ ", FromIdx: " ++ toString fromIdx ++ ", ToIdx: " ++ toString toIdx ++
      ", Amount: " ++ toString amount
  | coordIdxNotInTree tokenID coordIdx =>
    "Can not use CoordIdx that does not exist in the tree. TokenID: " ++ toString tokenID.toNat ++
      ", CoordIdx: " ++ toString coordIdx
  | zkiNotEmpty => "Expected StateDB.zki==nil, something went wrong and it's not empty"
  | coordIdxsLength length maxFeeTx =>
    "CoordIdxs (" ++ toString length ++ ") length must be smaller than MaxFeeTx (" ++ toString maxFeeTx ++ ")"
  | txsLength nTx maxTx =>
    "L1UserTx + L1CoordinatorTx + L2Tx (" ++ toString nTx ++ ") can not be bigger than MaxTx (" ++
      toString maxTx ++ ")"
  | l1TxsLength nL1Tx maxTx =>
    "L1UserTx + L1CoordinatorTx (" ++ toString nL1Tx ++ ") can not be bigger than MaxL1Tx (" ++
      toString maxTx ++ ")"
  | l2ToIdxZeroInSynchronizer => "In StateDB with Synchronizer mode L2.ToIdx can't be 0"
  | invalidRqOffset => "RqOffset must be a value between 0 and 7 (both included)"
  | tooManyFeeIdxs length =>
    "len(args.FeeIdxCoordinator) > " ++ toString rollupConstMaxFeeIdxCoordinator ++ ": " ++ toString length
  | l2TxsDataLength length expected =>
    "len(l2TxsData): " ++ toString length ++ ", expected: " ++ toString expected
  | authPublicKey => "error getting public key from Signature"
  | authAddrMismatch => "error: Ethereum address doesn't match with the one used in the signature"
  | coordIdxForTokenID tokenID due =>
    "Could not get CoordIdx for TokenID=" ++ toString tokenID.toNat ++ ", due: " ++ due
  | panic => "slice bounds out of range"
  | indexOutOfRange => "index out of range"

end Err

/-! ### Fixed-width encodings -/

def idxBytes (idx : Nat) : Except Err Bytes :=
  if idx > maxIdxValue then .error .idxOverflow else .ok (bytesBE 6 idx)

/-- `b[6-idxLen:]` for the six bytes of an index.  The bound is a `uint32`, so a longer index panics. -/
def idxTail (idxLen : Nat) (b : Bytes) : Except Err Bytes :=
  if idxLen ≤ 6 then .ok (b.drop (6 - idxLen)) else .error .panic

def idxFromBytes (b : Bytes) : Except Err Nat :=
  if b.length ≠ 6 then .error (.idxBytesLen b.length) else .ok (natOfBytesBE b)

def nonceBytes (nonce : Nat) : Except Err Bytes :=
  if nonce > maxNonceValue then .error .nonceOverflow else .ok (bytesBE 5 nonce)

namespace TokenID

def bytes (tokenID : TokenID) : Bytes :=
  bytesBE 4 tokenID.toNat

end TokenID

def tokenIDFromBytes (b : Bytes) : Except Err TokenID :=
  if b.length ≠ 4 then .error (.tokenIDBytesLen b.length) else .ok (BitVec.ofNat 32 (natOfBytesBE b))

namespace Address

def bytes (addr : Address) : Bytes :=
  bytesBE 20 addr.toNat

end Address

/-- `BytesToAddress`: only the last 20 bytes count. -/
def bytesToAddress (b : Bytes) : Address :=
  BitVec.ofNat 160 (natOfBytesBE b)

namespace PublicKeyComp

/-- The 32 bytes of a compressed key, little-endian as the key is stored. -/
def bytes (pk : PublicKeyComp) : Bytes :=
  swapEndianness (bytesBE 32 pk.toNat)

/-- `UnpackSignY`: the top bit is the sign, the remaining 255 bits are the coordinate. -/
def unpackSignY (pk : PublicKeyComp) : Bool × Nat :=
  (2 ^ 255 ≤ pk.toNat, pk.toNat % 2 ^ 255)

end PublicKeyComp

/-- The key held by 32 little-endian bytes. -/
def publicKeyCompFromBytes (b : Bytes) : PublicKeyComp :=
  BitVec.ofNat 256 (natOfBytesBE (swapEndianness b))

/-- `PackSignY`: the key with a given sign and coordinate. -/
def packSignY (sign : Bool) (y : Nat) : PublicKeyComp :=
  BitVec.ofNat 256 (y % 2 ^ 255 + if sign then 2 ^ 255 else 0)

/-! ### Library functions

The node and the contract call hash functions, signature recovery, signature decompression and Merkle
trees that are not part of this repository.  They are parameters; what is assumed of them is stated where
a result needs it. -/

/-- The hashes of the trees of accounts and exits. -/
def merkleTreeHashing (poseidon : List Nat → Nat) : SparseMerkle.Hashing Nat where
  hashNode left right := poseidon [left, right]
  hashLeaf key value := poseidon [key, value, 1]
  zero := 0

/-- The library functions the rollup is built on. -/
class Libraries where
  /-- The Ethereum hash of a byte string, as a big-endian number. -/
  keccak256 : Bytes → BitVec 256
  /-- The SHA-256 hash of a byte string, as a big-endian number. -/
  sha256 : Bytes → Nat
  /-- The Poseidon permutation on inputs inside the field. -/
  poseidon : List Nat → Nat
  /-- The address whose key signed a hash, if the signature recovers to a key. -/
  ecrecover : (hash signature : Bytes) → Option Address
  /-- `AccountCreationAuth.HashToSign`: the hash signed to authorize the creation of an account. -/
  accountCreationAuthHash : (chainID : Nat) → (hermezAddress : Address) → PublicKeyComp → Bytes
  /-- Whether a compressed signature decompresses to a point of the curve. -/
  signatureDecompresses : BitVec 512 → Bool
  /-- The trees of `go-merkletree`; indexes have 48 bits. -/
  merkleTrees : SparseMerkle.Trees (merkleTreeHashing poseidon) 48

/-- Stand-ins on which concrete runs are evaluated: the hash of a list of numbers is a pairing code of
the list, every signature decompresses, and a signature recovers to the address in its last bytes. -/
@[reducible] def plainLibraries : Libraries where
  keccak256 b := BitVec.ofNat 256 (natOfBytesBE b)
  sha256 b := natOfBytesBE b
  poseidon inputs := inputs.foldr (fun x code => Nat.pair x code + 1) 0
  ecrecover _ signature := some (BitVec.ofNat 160 (natOfBytesBE signature))
  accountCreationAuthHash chainID hermezAddress pk := bytesBE 2 chainID ++ Address.bytes hermezAddress ++ pk.bytes
  signatureDecompresses _ := true
  merkleTrees := .built _ 47

/-- `poseidon.Hash`: it fails exactly when an input is not inside the field. -/
def poseidonHash [Libraries] (inputs : List Nat) : Except Err Nat :=
  if inputs.all (· < rollupConstRfield) then .ok (Libraries.poseidon inputs) else .error .notInFF

/-- A slice of a byte string; bounds out of range panic. -/
def sliceE (b : Bytes) (start stop : Nat) : Except Err Bytes :=
  if start ≤ stop ∧ stop ≤ b.length then .ok (slice b start stop) else .error .panic

/-! ### Round trips of the basic types -/

theorem idxBytes_of_le {idx : Nat} (h : idx ≤ maxIdxValue) : idxBytes idx = .ok (bytesBE 6 idx) := by
  rw [idxBytes, if_neg (by omega)]

theorem idxBytes_eq_ok {idx : Nat} {b : Bytes} (h : idxBytes idx = .ok b) :
    idx ≤ maxIdxValue ∧ b = bytesBE 6 idx := by
  unfold idxBytes at h
  split at h
  · cases h
  · cases h
    exact ⟨by omega, rfl⟩

theorem nonceBytes_of_le {nonce : Nat} (h : nonce ≤ maxNonceValue) :
    nonceBytes nonce = .ok (bytesBE 5 nonce) := by
  rw [nonceBytes, if_neg (by omega)]

theorem idxFromBytes_bytesBE {idx : Nat} (h : idx ≤ maxIdxValue) : idxFromBytes (bytesBE 6 idx) = .ok idx := by
  rw [idxFromBytes, if_neg (by simp), natOfBytesBE_bytesBE_of_lt (by unfold maxIdxValue at h; omega)]

theorem tokenIDFromBytes_bytes (tokenID : TokenID) : tokenIDFromBytes (TokenID.bytes tokenID) = .ok tokenID := by
  rw [tokenIDFromBytes, TokenID.bytes, if_neg (by simp),
    natOfBytesBE_bytesBE_of_lt (by have := tokenID.isLt; omega)]
  simp

theorem bytesToAddress_bytes (addr : Address) : bytesToAddress (Address.bytes addr) = addr := by
  rw [bytesToAddress, Address.bytes, natOfBytesBE_bytesBE_of_lt (by have := addr.isLt; omega)]
  simp

@[simp] theorem swapEndianness_publicKeyComp_bytes (pk : PublicKeyComp) :
    swapEndianness (PublicKeyComp.bytes pk) = bytesBE 32 pk.toNat := by
  simp [PublicKeyComp.bytes]

theorem publicKeyCompFromBytes_swap (pk : PublicKeyComp) :
    publicKeyCompFromBytes (swapEndianness (bytesBE 32 pk.toNat)) = pk := by
  rw [publicKeyCompFromBytes, swapEndianness_swapEndianness,
    natOfBytesBE_bytesBE_of_lt (by have := pk.isLt; omega)]
  simp

theorem packSignY_unpackSignY (pk : PublicKeyComp) :
    packSignY (PublicKeyComp.unpackSignY pk).1 (PublicKeyComp.unpackSignY pk).2 = pk := by
  apply BitVec.eq_of_toNat_eq
  have hlt : pk.toNat < 2 ^ 256 := pk.isLt
  simp only [packSignY, PublicKeyComp.unpackSignY, Nat.mod_mod, BitVec.toNat_ofNat]
  by_cases h : 2 ^ 255 ≤ pk.toNat
  · simp only [h, decide_true, if_true]
    omega
  · simp only [h, decide_false, Bool.false_eq_true, if_false]
    omega

end HermezRollup
