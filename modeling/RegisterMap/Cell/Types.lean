import RegisterMap.Cell.Basic

/-!
# The cells of the driver
-/

namespace RegisterMap.CellType

def iocfg3 : CellType where
  name := "Iocfg3".toList
  reset := 0x06
  fields := [
    ⟨"gpio3_atran".toList, 7, 7, true⟩,
    ⟨"gpio3_inv".toList, 6, 6, true⟩,
    ⟨"gpio3_cfg".toList, 5, 0, true⟩]

def sync3 : CellType where
  name := "Sync3".toList
  reset := 0x93
  fields := [⟨"sync31_24".toList, 7, 0, true⟩]

def syncCfg0 : CellType where
  name := "SyncCfg0".toList
  reset := 0x03
  fields := [
    ⟨"sync_cfg0_not_used".toList, 7, 6, false⟩,
    ⟨"auto_clear".toList, 5, 5, true⟩,
    ⟨"rx_config_limitation".toList, 4, 4, true⟩,
    ⟨"pqt_gating_en".toList, 3, 3, true⟩,
    ⟨"ext_sync_detect".toList, 2, 2, true⟩,
    ⟨"strict_sync_check".toList, 1, 0, true⟩]

def fifoCfg : CellType where
  name := "FifoCfg".toList
  reset := 0x80
  fields := [
    ⟨"crc_autoflush".toList, 7, 7, true⟩,
    ⟨"fifo_thr".toList, 6, 0, true⟩]

def marcstate : CellType where
  name := "Marcstate".toList
  reset := 0x41
  fields := [
    ⟨"marcstate_not_used".toList, 7, 7, false⟩,
    ⟨"marc_2pin_state".toList, 6, 5, false⟩,
    ⟨"marc_state".toList, 4, 0, false⟩]

def freqoffEst1 : CellType where
  name := "FreqoffEst1".toList
  reset := 0x00
  fields := [⟨"freqoff_est_15_8".toList, 7, 0, false⟩]

def all : List CellType := [iocfg3, sync3, syncCfg0, fifoCfg, marcstate, freqoffEst1]

def ofName? (name : Text) : Option CellType := all.find? (·.name = name)

end RegisterMap.CellType
