import BptCore.Common.Util.Json
import BptCore.Refdata.RefdataService

/-!
# The OKX listing decoder

An instrument listing of the venue, decoded into the instruments that are live and have a canonical
id. A value of another kind than the decoder reads makes it throw, which is `none`.

* **`parseInstrument`** — one entry of the listing; `some none` when the decoder passes over it.
* **`parseInstruments`** — the whole listing; none of it when the venue says that it failed.
* **`Listed`** — what is known of the instruments that come out.
-/

namespace BptCore.Refdata

open BptCore.Common

/-! ## The mapping -/

def EXCHANGE_ID_OKX : Nat := 2

def INST_UID_MULTIPLIER : Nat := 100

def makeInstUid (canonicalId exchangeId : Nat) : Nat := canonicalId * INST_UID_MULTIPLIER + exchangeId

/-- The forward map of `InstrumentMappingLoader`. -/
structure InstrumentMapping where
  forward : Table String Nat

def InstrumentMapping.tryResolveCanonicalId (m : InstrumentMapping) (exchangeId : Nat)
    (exchangeSymbol : String) : Option Nat :=
  m.forward.lookup (toString exchangeId ++ "_" ++ exchangeSymbol)

/-! ## The decoder -/

namespace OKXRefdataDecoder

def okxToInstType (instType : String) : InstrumentType :=
  if instType = "SPOT" then .SPOT
  else if instType = "SWAP" then .PERP
  else if instType = "FUTURES" then .FUTURE
  else if instType = "OPTION" then .OPTION
  else .UNKNOWN

def okxToStatus (state : String) : InstrumentStatus :=
  if state = "live" then .ACTIVE else if state = "suspend" then .HALTED else .DELISTED

/-- The base currency of an instrument id, up to its first dash. -/
def baseOfInstId (instId : String) : String :=
  if '-' ∈ instId.toList then String.ofList (instId.toList.takeWhile (· ≠ '-')) else ""

/-- The quote currency, from the first dash to the second. -/
def quoteOfInstId (instId : String) : String :=
  String.ofList ((instId.toList.dropWhile (· ≠ '-')).tail.takeWhile (· ≠ '-'))

/-- A size that is read when it is a string. -/
def readSize (o : JsonObject) (key : String) (missing : ℚ) : Option ℚ :=
  match o.findString key with
  | none => some missing
  | some s => stod s

/-- An empty `ctVal` is as good as none. -/
def readContractMultiplier (o : JsonObject) : Option ℚ :=
  if o.findString "ctVal" = some "" then some 1 else readSize o "ctVal" 1

/-- In nanoseconds; only a future has an expiry. -/
def readExpiry (o : JsonObject) (type : InstrumentType) : Option (Option Nat) :=
  match o.findString "expTime" with
  | none => some none
  | some s =>
    if type ≠ .FUTURE ∨ s = "" then some none
    else (stoull s).map fun expMs =>
      if expMs > 0 then some (expMs * 1000000 % 2 ^ 64) else none

/-- The instrument of an entry with a canonical id. -/
def decodeInstrument (o : JsonObject) (instType state venueSymbol base quote : String) (cid : Nat) :
    Option Instrument := do
  let tickSize ← readSize o "tickSz" 0
  let lotSzRaw ← readSize o "lotSz" 0
  let contractMultiplier ← readContractMultiplier o
  let expiryTimestamp ← readExpiry o (okxToInstType instType)
  some {
    instUid := makeInstUid cid EXCHANGE_ID_OKX
    venue := "OKX"
    venueSymbol := venueSymbol
    instType := okxToInstType instType
    base := base
    quote := quote
    tickSize := tickSize
    lotSize := lotSzRaw * contractMultiplier
    contractMultiplier := contractMultiplier
    status := okxToStatus state
    expiryTimestamp := expiryTimestamp }

variable (m : InstrumentMapping) (instType : String)

def parseInstrument (sym : Json) : Option (Option Instrument) := do
  let o ← sym.asObject
  let state ← o.stringOrThrow "state"
  if state ≠ "live" then some none else do
  let venueSymbol ← o.stringOrThrow "instId"
  if venueSymbol = "" then some none else do
  let baseCcy ← o.stringOrThrow "baseCcy"
  let quoteCcy ← o.stringOrThrow "quoteCcy"
  let base := if baseCcy = "" then baseOfInstId venueSymbol else baseCcy
  let quote := if quoteCcy = "" then quoteOfInstId venueSymbol else quoteCcy
  match m.tryResolveCanonicalId EXCHANGE_ID_OKX venueSymbol with
  | none => some none
  | some cid => (decodeInstrument o instType state venueSymbol base quote cid).map some

/-- One entry that throws is the end of all. -/
def parseEntries : List Json → Option (List Instrument)
  | [] => some []
  | sym :: syms => do
    let inst ← parseInstrument m instType sym
    let insts ← parseEntries syms
    some (inst.toList ++ insts)

/-- The venue says with the code whether the request was good. -/
def parseInstruments (body : Json) : Option (List Instrument) := do
  let o ← body.asObject
  let code ← o.stringOrThrow "code"
  if code ≠ "0" then do
    let _ ← o.stringOrThrow "msg"
    some []
  else parseEntries m instType ((o.find "data").getD .null).elements

/-! ## What comes out -/

/-- An instrument of the venue that trades. -/
structure Listed (inst : Instrument) : Prop where
  uid : inst.instUid % INST_UID_MULTIPLIER = EXCHANGE_ID_OKX
  active : inst.status = .ACTIVE

theorem listed_of_decodeInstrument {o : JsonObject} {instType venueSymbol base quote : String}
    {cid : Nat} {inst : Instrument}
    (h : decodeInstrument o instType "live" venueSymbol base quote cid = some inst) :
    Listed inst := by
  simp only [decodeInstrument, bind, Option.bind_eq_some_iff] at h
  obtain ⟨tickSize, -, lotSzRaw, -, contractMultiplier, -, expiryTimestamp, -, hinst⟩ := h
  obtain rfl := Option.some.inj hinst
  exact ⟨Nat.mul_add_mod_self_right _ _ _, rfl⟩

variable {m instType}

theorem listed_of_parseInstrument {sym : Json} {inst : Instrument}
    (h : parseInstrument m instType sym = some (some inst)) : Listed inst := by
  simp only [parseInstrument, bind, Option.bind_eq_some_iff] at h
  obtain ⟨o, -, state, -, h⟩ := h
  split at h
  · cases h
  next hstate =>
    obtain rfl : state = "live" := not_not.mp hstate
    obtain ⟨venueSymbol, -, h⟩ := Option.bind_eq_some_iff.mp h
    split at h
    · cases h
    · obtain ⟨baseCcy, -, h⟩ := Option.bind_eq_some_iff.mp h
      obtain ⟨quoteCcy, -, h⟩ := Option.bind_eq_some_iff.mp h
      split at h
      · cases h
      · obtain ⟨inst', hdecode, hinst⟩ := Option.map_eq_some_iff.mp h
        obtain rfl := Option.some.inj hinst
        exact listed_of_decodeInstrument hdecode

theorem listed_of_parseEntries {syms : List Json} {insts : List Instrument}
    (h : parseEntries m instType syms = some insts) : ∀ inst ∈ insts, Listed inst := by
  induction syms generalizing insts with
  | nil =>
    obtain rfl := Option.some.inj h
    exact fun inst hmem => absurd hmem List.not_mem_nil
  | cons sym syms ih =>
    obtain ⟨inst, hinst, h⟩ := Option.bind_eq_some_iff.mp h
    obtain ⟨insts', hinsts, h⟩ := Option.bind_eq_some_iff.mp h
    obtain rfl := Option.some.inj h
    intro inst' hmem
    rcases List.mem_append.mp hmem with hhead | htail
    · obtain rfl := Option.mem_toList.mp hhead
      exact listed_of_parseInstrument hinst
    · exact ih hinsts inst' htail

/-- **Everything that is decoded trades** on this venue. -/
theorem listed_of_parseInstruments {body : Json} {insts : List Instrument}
    (h : parseInstruments m instType body = some insts) : ∀ inst ∈ insts, Listed inst := by
  simp only [parseInstruments, bind, Option.bind_eq_some_iff] at h
  obtain ⟨o, -, code, -, h⟩ := h
  split at h
  · obtain ⟨-, -, h⟩ := Option.bind_eq_some_iff.mp h
    obtain rfl := Option.some.inj h
    exact fun inst hmem => absurd hmem List.not_mem_nil
  · exact listed_of_parseEntries h

end OKXRefdataDecoder

end BptCore.Refdata
