import ModeParameters.Registry.Basic

/-! # Sample tables

A representative part of the mode pages of disks and tapes, the protocol-specific port pages of
serial attached SCSI, and one vendor page. Complete tables are built the same way. -/

namespace ModeParameters.Sample

open ModeParameters.Field (named)

/-- The flags of a field of the short listing. -/
def common : FieldFlags := { common := true }

/-- The flags of a field shown in hexadecimal. -/
def hex : FieldFlags := { hex := true }

/-- The restriction of an entry for tapes. -/
def tapeOnly : DeviceFilter := .only .tape

/-! ## Generic pages -/

/-- The page `rw`. -/
def readWriteRecovery : PageEntry where
  key := ⟨0x01, 0x00⟩
  acronym := "rw"
  name := "Read write error recovery"

/-- The fields of the page `rw`. -/
def readWriteRecoveryFields : List Field :=
  [named "AWRE" readWriteRecovery.key ⟨2, 7, 1⟩ "Automatic write reallocation enabled"
      |>.withFlags common,
   named "ARRE" readWriteRecovery.key ⟨2, 6, 1⟩ "Automatic read reallocation enabled"
      |>.withFlags common,
   named "TB" readWriteRecovery.key ⟨2, 5, 1⟩ "Transfer block",
   named "RC" readWriteRecovery.key ⟨2, 4, 1⟩ "Read continuous",
   named "EER" readWriteRecovery.key ⟨2, 3, 1⟩ "Enable early recovery",
   (named "PER" readWriteRecovery.key ⟨2, 2, 1⟩ "Post error").withFlags common,
   named "DTE" readWriteRecovery.key ⟨2, 1, 1⟩ "Data terminate on error",
   named "DCR" readWriteRecovery.key ⟨2, 0, 1⟩ "Disable correction",
   named "RRC" readWriteRecovery.key ⟨3, 7, 8⟩ "Read retry count",
   named "WRC" readWriteRecovery.key ⟨8, 7, 8⟩ "Write retry count",
   named "RTL" readWriteRecovery.key ⟨10, 7, 16⟩ "Recovery time limit (ms)"]

/-- The page `ca`. -/
def caching : PageEntry where
  key := ⟨0x08, 0x00⟩
  acronym := "ca"
  name := "Caching"

/-- The fields of the page `ca`. -/
def cachingFields : List Field :=
  [named "IC" caching.key ⟨2, 7, 1⟩ "Initiator control",
   named "ABPF" caching.key ⟨2, 6, 1⟩ "Abort pre-fetch",
   named "CAP" caching.key ⟨2, 5, 1⟩ "Caching analysis permitted",
   named "DISC" caching.key ⟨2, 4, 1⟩ "Discontinuity",
   named "SIZE" caching.key ⟨2, 3, 1⟩ "Size enable",
   (named "WCE" caching.key ⟨2, 2, 1⟩ "Write cache enable").withFlags common,
   named "MF" caching.key ⟨2, 1, 1⟩ "Multiplication factor",
   (named "RCD" caching.key ⟨2, 0, 1⟩ "Read cache disable").withFlags common,
   named "DRRP" caching.key ⟨3, 7, 4⟩ "Demand read retention priority",
   named "WRP" caching.key ⟨3, 3, 4⟩ "Write retention priority",
   named "DPTL" caching.key ⟨4, 7, 16⟩ "Disable pre-fetch transfer length",
   named "MIPF" caching.key ⟨6, 7, 16⟩ "Minimum pre-fetch",
   named "MAPF" caching.key ⟨8, 7, 16⟩ "Maximum pre-fetch",
   named "MAPFC" caching.key ⟨10, 7, 16⟩ "Maximum pre-fetch ceiling",
   named "FSW" caching.key ⟨12, 7, 1⟩ "Force sequential write",
   named "DRA" caching.key ⟨12, 5, 1⟩ "Disable read ahead",
   named "NCS" caching.key ⟨13, 7, 8⟩ "Number of cache segments",
   named "CSS" caching.key ⟨14, 7, 16⟩ "Cache segment size"]

/-- The page `co`. -/
def control : PageEntry where
  key := ⟨0x0A, 0x00⟩
  acronym := "co"
  name := "Control"

/-- The fields of the page `co`. -/
def controlFields : List Field :=
  [named "TST" control.key ⟨2, 7, 3⟩ "Task set type",
   (named "D_SENSE" control.key ⟨2, 2, 1⟩ "Descriptor format sense data").withFlags common,
   named "GLTSD" control.key ⟨2, 1, 1⟩ "Global logging target save disable",
   named "QAM" control.key ⟨3, 7, 4⟩ "Queue algorithm modifier",
   named "QERR" control.key ⟨3, 2, 2⟩ "Queue error management",
   (named "SWP" control.key ⟨4, 3, 1⟩ "Software write protect").withFlags common,
   named "BTP" control.key ⟨8, 7, 16⟩ "Busy timeout period (100us)",
   named "ESTCT" control.key ⟨10, 7, 16⟩ "Extended self test completion time (s)"]

/-- The page `coe`. -/
def controlExtension : PageEntry where
  key := ⟨0x0A, 0x01⟩
  acronym := "coe"
  name := "Control extension"

/-- The fields of the page `coe`. -/
def controlExtensionFields : List Field :=
  [named "IALUAE" controlExtension.key ⟨4, 0, 1⟩ "Implicit ALUA enable",
   named "MSDL" controlExtension.key ⟨6, 7, 8⟩ "Maximum sense data length"]

/-- The page `dc`. -/
def deviceConfiguration : PageEntry where
  key := ⟨0x10, 0x00⟩
  filter := tapeOnly
  acronym := "dc"
  name := "Device configuration"

/-- The fields of the page `dc`. -/
def deviceConfigurationFields : List Field :=
  [(named "CAF" deviceConfiguration.key ⟨2, 5, 1⟩ "Change active format").restrictedTo tapeOnly,
   named "ACT_PART" deviceConfiguration.key ⟨3, 7, 8⟩ "Active partition"
      |>.restrictedTo tapeOnly]

/-- The page `po`. -/
def powerCondition : PageEntry where
  key := ⟨0x1A, 0x00⟩
  acronym := "po"
  name := "Power condition"

/-- The fields of the page `po`. -/
def powerConditionFields : List Field :=
  [(named "IDLE" powerCondition.key ⟨3, 1, 1⟩ "Idle timer active").withFlags common,
   (named "STANDBY" powerCondition.key ⟨3, 0, 1⟩ "Standby timer active").withFlags common,
   named "ICT" powerCondition.key ⟨4, 7, 32⟩ "Idle condition timer (100 ms)"
      |>.withExtra "0 means the device chooses",
   named "SCT" powerCondition.key ⟨8, 7, 32⟩ "Standby condition timer (100 ms)"]

/-- The page `ie`. -/
def informationalExceptions : PageEntry where
  key := ⟨0x1C, 0x00⟩
  acronym := "ie"
  name := "Informational exceptions control"

/-- The fields of the page `ie`. -/
def informationalExceptionsFields : List Field :=
  [(named "DEXCPT" informationalExceptions.key ⟨2, 3, 1⟩ "Disable exceptions").withFlags common,
   named "MRIE" informationalExceptions.key ⟨3, 3, 4⟩ "Method of reporting informational exceptions"
      |>.withFlags common]

/-! ## Pages of serial attached SCSI -/

/-- Phy descriptors: counted in byte 7, 48 bytes each, from byte 8 on. -/
def phyDescriptors : DescriptorBlock where
  firstOffset := 8
  count := .counted 7 1 0
  stride := .fixed 48
  idOffset := none
  name := "phy descriptor"

/-- Enhanced phy descriptors: counted in byte 7, each with its own length in its bytes 2 and 3, from
byte 8 on. -/
def enhancedPhyDescriptors : DescriptorBlock where
  firstOffset := 8
  count := .counted 7 1 0
  stride := .variable 2 2
  idOffset := none
  name := "enhanced phy descriptor"

/-- The page `pspo`. -/
def portControl : PageEntry where
  key := ⟨0x19, 0x00⟩
  acronym := "pspo"
  name := "Protocol specific port (SAS)"

/-- The fields of the page `pspo`. -/
def portControlFields : List Field :=
  [(named "RLM" portControl.key ⟨2, 4, 1⟩ "Ready LED meaning").withFlags common,
   named "PPID" portControl.key ⟨2, 3, 4⟩ "Port's (transport) protocol identifier",
   (named "ITNLT" portControl.key ⟨4, 7, 16⟩ "I_T nexus loss time (ms)").withFlags common,
   named "IRT" portControl.key ⟨6, 7, 16⟩ "Initiator response timeout (ms)"]

/-- The page `pcd`. -/
def phyControl : PageEntry where
  key := ⟨0x19, 0x01⟩
  acronym := "pcd"
  name := "Phy control and discovery (SAS)"
  descriptors := some phyDescriptors

/-- The fields of the page `pcd`. -/
def phyControlFields : List Field :=
  [named "NOP" phyControl.key ⟨7, 7, 8⟩ "Number of phys",
   (named "PHID" phyControl.key ⟨9, 7, 8⟩ "Phy identifier").withFlags common,
   named "ADT" phyControl.key ⟨12, 6, 3⟩ "Attached device type",
   named "NLR" phyControl.key ⟨13, 3, 4⟩ "Negotiated logical link rate",
   named "SASA" phyControl.key ⟨16, 7, 64⟩ "SAS address"
      |>.withFlags { hex := true, common := true },
   (named "ASASA" phyControl.key ⟨24, 7, 64⟩ "Attached SAS address").withFlags hex,
   named "APHID" phyControl.key ⟨32, 7, 8⟩ "Attached phy identifier",
   named "PMINLR" phyControl.key ⟨40, 7, 4⟩ "Programmed minimum link rate",
   named "HMINLR" phyControl.key ⟨40, 3, 4⟩ "Hardware minimum link rate",
   named "PMAXLR" phyControl.key ⟨41, 7, 4⟩ "Programmed maximum link rate",
   named "HMAXLR" phyControl.key ⟨41, 3, 4⟩ "Hardware maximum link rate"]

/-- The page `epc`. -/
def enhancedPhyControl : PageEntry where
  key := ⟨0x19, 0x03⟩
  acronym := "epc"
  name := "Enhanced phy control (SAS)"
  descriptors := some enhancedPhyDescriptors

/-- The fields of the page `epc`. -/
def enhancedPhyControlFields : List Field :=
  [named "EPHID" enhancedPhyControl.key ⟨9, 7, 8⟩ "Phy identifier (enhanced)",
   (named "PPC" enhancedPhyControl.key ⟨20, 7, 32⟩ "Programmed phy capabilities").withFlags hex]

/-! ## A vendor page -/

/-- The page `ua`. -/
def unitAttention : PageEntry where
  key := ⟨0x00, 0x00⟩
  acronym := "ua"
  name := "Unit attention (Seagate)"

/-- The fields of the page `ua`. -/
def unitAttentionFields : List Field :=
  [named "PM" unitAttention.key ⟨2, 7, 1⟩ "Performance mode",
   named "SSM" unitAttention.key ⟨2, 6, 1⟩ "Synchronous select mode",
   (named "UAI" unitAttention.key ⟨2, 4, 1⟩ "Unit attention interlock").withFlags common,
   named "DAR" unitAttention.key ⟨2, 2, 1⟩ "Delay after reset"]

/-! ## The registry -/

/-- The generic pages and fields. -/
def genericTable : PageTable where
  pages := [readWriteRecovery, caching, control, controlExtension, deviceConfiguration,
      powerCondition, informationalExceptions]
  fields := readWriteRecoveryFields ++ cachingFields ++ controlFields ++ controlExtensionFields ++
    deviceConfigurationFields ++ powerConditionFields ++ informationalExceptionsFields

/-- The pages and fields of serial attached SCSI. -/
def sasTable : PageTable where
  pages := [portControl, phyControl, enhancedPhyControl]
  fields := portControlFields ++ phyControlFields ++ enhancedPhyControlFields

/-- The pages and fields of the vendor. -/
def seagateTable : PageTable where
  pages := [unitAttention]
  fields := unitAttentionFields

/-- The registry of the sample tables. -/
def registry : Registry :=
  ({ generic := genericTable } : Registry).withTransport .sas sasTable
    |>.withVendor .seagate seagateTable

end ModeParameters.Sample
