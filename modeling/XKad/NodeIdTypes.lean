import XKad.NodeRecords

/-!
# Node id types

A node id starts with a byte for the country and three for the network. One byte of
the network is ever filled in and read back. The country byte comes from the hash of the
country in two ways: from the configuration it is the top byte of the hash, from the
country alone it is nothing of the hash at all.
-/
namespace XKad

def kNodeIdTypeSize : ℕ := 4

/-- What `memcpy` takes from a `uint32_t`, the low byte first. -/
def memoryBytes : ℕ → UInt32 → Bytes
  | 0, _ => []
  | n + 1, v => v.toUInt8 :: memoryBytes n (v >>> 8)

theorem length_memoryBytes (n : ℕ) (v : UInt32) : (memoryBytes n v).length = n := by
  induction n generalizing v with
  | zero => rfl
  | succ n ih => rw [memoryBytes, List.length_cons, ih]

def genNodeIdType (countryCode serviceType : UInt8) : Bytes :=
  let ser := serviceType.toUInt32
  countryCode :: memoryBytes 3 ser

theorem length_genNodeIdType (countryCode serviceType : UInt8) :
    (genNodeIdType countryCode serviceType).length = kNodeIdTypeSize := by
  rw [genNodeIdType, List.length_cons, length_memoryBytes]
  rfl

def getNetworkId (id : Bytes) : Option UInt32 :=
  if id.length ≠ kNodeIdSize then none else some (id.getD 1 0).toUInt32

section NetworkIds

variable (countryCode : UInt8) (networkId : UInt32) {suffix : Bytes}

/-- What comes back is the network id as it was narrowed for `GenNodeIdType`. -/
theorem getNetworkId_genNodeIdType (hsuffix : suffix.length = kNodeIdSize - kNodeIdTypeSize) :
    getNetworkId (genNodeIdType countryCode networkId.toUInt8 ++ suffix) = some networkId.toUInt8.toUInt32 := by
  have hlength : (genNodeIdType countryCode networkId.toUInt8 ++ suffix).length = kNodeIdSize := by
    rw [List.length_append, length_genNodeIdType, hsuffix]
    rfl
  have hbyte : (genNodeIdType countryCode networkId.toUInt8 ++ suffix).getD 1 0 = networkId.toUInt8 :=
    UInt8.toUInt8_toUInt32 networkId.toUInt8
  rw [getNetworkId, if_neg (fun hne => hne hlength), hbyte]

/-- The network id is the one put in exactly if it fits a byte. -/
theorem getNetworkId_genNodeIdType_iff (hsuffix : suffix.length = kNodeIdSize - kNodeIdTypeSize) :
    getNetworkId (genNodeIdType countryCode networkId.toUInt8 ++ suffix) = some networkId ↔ networkId < 256 := by
  rw [getNetworkId_genNodeIdType countryCode networkId hsuffix, Option.some.injEq, ← UInt32.toNat_inj,
    UInt8.toNat_toUInt32, UInt32.toNat_toUInt8, UInt32.lt_iff_toNat_lt, show (256 : UInt32).toNat = 256 from rfl]
  omega

end NetworkIds

theorem getNetworkId_genNodeIdType_byte :
    getNetworkId (genNodeIdType 0x38 (200 : UInt32).toUInt8 ++ List.replicate 32 0) = some 200 :=
  (getNetworkId_genNodeIdType_iff 0x38 200 rfl).mpr (by decide)

theorem getNetworkId_genNodeIdType_narrowed :
    (256 : UInt32).toNat < 2 ^ 24 ∧ (List.replicate 32 0 : Bytes).length = kNodeIdSize - kNodeIdTypeSize ∧
      getNetworkId (genNodeIdType 0x38 (256 : UInt32).toUInt8 ++ List.replicate 32 0) = some 0 ∧
      getNetworkId (genNodeIdType 0x38 (256 : UInt32).toUInt8 ++ List.replicate 32 0) ≠ some 256 := by
  decide

/-- `toupper`, for the characters that `::toupper` changes in the C locale. -/
def toupper (str : Bytes) : Bytes := str.map (fun c => if 97 ≤ c ∧ c ≤ 122 then c - 32 else c)

/-- The keys of the service types that `BusinessID` names. -/
inductive Business where
  | kRoot | kClient
  | kEdgeXVPN | kEdgeTopMessage | kEdgeTopStorage
  | kXVPN | kTopMessage | kTopStorage

def businessNames : List (String × Business) :=
  [("ROOT", .kRoot), ("CLIENT", .kClient),
    ("EDGEXVPN", .kEdgeXVPN), ("EDGEXMESSAGE", .kEdgeTopMessage), ("EDGEXSTORAGE", .kEdgeTopStorage),
    ("XVPN", .kXVPN), ("XMESSAGE", .kTopMessage), ("XSTORAGE", .kTopStorage)]

def getBusinessID (codes : Business → UInt32) (business : Bytes) : UInt32 :=
  match businessNames.find? (fun e => e.1.toList.map (fun c => UInt8.ofNat c.toNat) == business) with
  | none => UInt32.ofNat (UInt32.size - 1)
  | some e => codes e.2

section Countries

variable (xhash32 : Bytes → UInt32) (codes : Business → UInt32)

def getWorldCountryID (countryCode : Bytes) : UInt8 :=
  let hash := xhash32 countryCode
  (hash &&& 0xFF000000).toUInt8

def genNodeIdTypeOf (inCountry inBusiness : Bytes) : Bytes :=
  if inCountry.isEmpty || inBusiness.isEmpty then []
  else
    let country := toupper inCountry
    let business := toupper inBusiness
    let countrycode := getWorldCountryID xhash32 country
    if countrycode = 255 then []
    else
      let businesscode := getBusinessID codes business
      if UInt32.ofNat (UInt32.size - 1) ≤ businesscode then []
      else genNodeIdType countrycode businesscode.toUInt8

/-- The entries of a configuration's section "node" that give the zone. -/
structure NodeConfig where
  zoneId : Option UInt32 := none
  country : Option Bytes := none

def getZoneIdFromConfig (config : NodeConfig) : Option UInt32 :=
  match config.zoneId with
  | some zoneId => some zoneId
  | none => config.country.map xhash32

/-- `check_cast<uint8_t>(((zone_id >> 24) & 0xFF))`. -/
def zoneByte (zoneId : UInt32) : UInt8 := ((zoneId >>> 24) &&& 0xFF).toUInt8

/-- The zone id `CreateGlobalXid` sets, or nothing when it fails. -/
def createGlobalXidZone (config : NodeConfig) : Option UInt8 := (getZoneIdFromConfig xhash32 config).map zoneByte

/-- The id type `CreateLocalInfoFromConfig` makes, or nothing when it gives up there;
`xnetworkId` is that of the xip. -/
def createLocalInfoIdType (config : NodeConfig) (xnetworkId : UInt32) : Option Bytes :=
  match getZoneIdFromConfig xhash32 config with
  | none => none
  | some zoneId =>
    let idtype := genNodeIdType (zoneByte zoneId) xnetworkId.toUInt8
    if idtype.isEmpty then none else some idtype

theorem getWorldCountryID_eq_zero (countryCode : Bytes) : getWorldCountryID xhash32 countryCode = 0 := by
  apply UInt8.toNat_inj.mp
  rw [getWorldCountryID, UInt32.toNat_toUInt8, UInt32.toNat_and, Nat.and_mod_two_pow]
  exact Nat.and_zero _

theorem zoneByte_eq (zoneId : UInt32) : zoneByte zoneId = (zoneId >>> 24).toUInt8 := by
  apply UInt8.toNat_inj.mp
  rw [zoneByte, UInt32.toNat_toUInt8, UInt32.toNat_toUInt8, UInt32.toNat_and, Nat.and_mod_two_pow]
  exact (Nat.and_two_pow_sub_one_eq_mod _ 8).trans (Nat.mod_mod _ _)

theorem zoneByte_eq_zero_iff (zoneId : UInt32) : zoneByte zoneId = 0 ↔ zoneId >>> 24 = 0 := by
  have hlt : (zoneId >>> 24).toNat < 256 := by
    rw [UInt32.toNat_shiftRight, Nat.shiftRight_eq_div_pow]
    exact Nat.div_lt_of_lt_mul zoneId.toNat_lt
  rw [zoneByte_eq, ← UInt8.toNat_inj, ← UInt32.toNat_inj, UInt32.toNat_toUInt8, Nat.mod_eq_of_lt hlt]
  rfl

theorem genNodeIdTypeOf_eq {country business : Bytes} (h : genNodeIdTypeOf xhash32 codes country business ≠ []) :
    genNodeIdTypeOf xhash32 codes country business =
      genNodeIdType (getWorldCountryID xhash32 (toupper country)) (getBusinessID codes (toupper business)).toUInt8 := by
  rw [genNodeIdTypeOf] at h ⊢
  split at h
  · exact absurd rfl h
  · next hgiven =>
    rw [if_neg hgiven]
    dsimp only at h ⊢
    split at h
    · exact absurd rfl h
    · next hcountry =>
      rw [if_neg hcountry]
      split at h
      · exact absurd rfl h
      · next hbusiness => rw [if_neg hbusiness]

theorem head_createLocalInfoIdType (config : NodeConfig) (xnetworkId : UInt32) :
    (createLocalInfoIdType xhash32 config xnetworkId).bind List.head? = createGlobalXidZone xhash32 config := by
  rw [createLocalInfoIdType, createGlobalXidZone]
  cases getZoneIdFromConfig xhash32 config <;> rfl

/-- The country byte of an id made by name is the zone byte of the configuration exactly
if the top byte of the hash is zero. -/
theorem genNodeIdTypeOf_zone_iff {country business : Bytes}
    (hid : genNodeIdTypeOf xhash32 codes country business ≠ []) {config : NodeConfig}
    (hzone : config.zoneId = none) (hcountry : config.country = some country) (xnetworkId : UInt32) :
    ((genNodeIdTypeOf xhash32 codes country business).head? = createGlobalXidZone xhash32 config ∧
        (genNodeIdTypeOf xhash32 codes country business).head? =
          (createLocalInfoIdType xhash32 config xnetworkId).bind List.head?) ↔
      xhash32 country >>> 24 = 0 := by
  have hconfig : createGlobalXidZone xhash32 config = some (zoneByte (xhash32 country)) := by
    rw [createGlobalXidZone, getZoneIdFromConfig, hzone, hcountry]
    rfl
  have hid0 : (genNodeIdTypeOf xhash32 codes country business).head? = some 0 := by
    rw [genNodeIdTypeOf_eq xhash32 codes hid, getWorldCountryID_eq_zero]
    rfl
  rw [head_createLocalInfoIdType, and_self, hid0, hconfig, Option.some.injEq, eq_comm, zoneByte_eq_zero_iff]

end Countries

section Samples

def countryCN : Bytes := [67, 78]
def businessROOT : Bytes := [82, 79, 79, 84]

/-- A hash with a top byte: the id made by name is of zone 0, by the configuration of zone 0x38. -/
theorem genNodeIdTypeOf_other_zone :
    toupper countryCN = countryCN ∧
      genNodeIdTypeOf (fun _ => 0x38040000) (fun _ => 4) countryCN businessROOT = [0, 4, 0, 0] ∧
      createGlobalXidZone (fun _ => 0x38040000) { country := some countryCN } = some 0x38 ∧
      createLocalInfoIdType (fun _ => 0x38040000) { country := some countryCN } 4 = some [0x38, 4, 0, 0] := by
  decide +kernel

theorem genNodeIdTypeOf_zone_low :
    (genNodeIdTypeOf (fun _ => 0x00040000) (fun _ => 4) countryCN businessROOT).head? =
        createGlobalXidZone (fun _ => 0x00040000) { country := some countryCN } ∧
      (genNodeIdTypeOf (fun _ => 0x00040000) (fun _ => 4) countryCN businessROOT).head? =
        (createLocalInfoIdType (fun _ => 0x00040000) { country := some countryCN } 4).bind List.head? :=
  (genNodeIdTypeOf_zone_iff (fun _ => 0x00040000) (fun _ => 4) (by decide +kernel) rfl rfl 4).mpr
    (by decide)

end Samples
end XKad
