/-
This file holds the settings of a connection to an Electrum server. The setters keep the two
counts at one or more; settings that are read as data or written as a record are taken as given.
-/

namespace WalletBridge

/-- The settings of a connection. -/
structure ElectrumConfig where
  url : String
  socks5 : Option String
  retry : UInt8
  timeout : Option UInt8
  stopGap : UInt64
  batchSize : UInt64
  deriving Repr, DecidableEq

namespace ElectrumConfig

/-- The settings that hold when nothing is chosen. -/
def default : ElectrumConfig :=
  ⟨"ssl://electrum.blockstream.info:60002", none, 5, none, 10, 10⟩

/-- The default settings for a server. -/
def ofUrl (url : String) : ElectrumConfig := { default with url := url }

/-- The settings with a proxy. -/
def withSocks5 (config : ElectrumConfig) (proxy : String) : ElectrumConfig :=
  { config with socks5 := some proxy }

/-- The settings with a number of retries. -/
def withRetry (config : ElectrumConfig) (retry : UInt8) : ElectrumConfig :=
  { config with retry := retry }

/-- The settings with a timeout in seconds. -/
def withTimeout (config : ElectrumConfig) (seconds : UInt8) : ElectrumConfig :=
  { config with timeout := some seconds }

/-- The settings with a stop gap of at least one. -/
def withStopGap (config : ElectrumConfig) (stopGap : UInt64) : ElectrumConfig :=
  { config with stopGap := max stopGap 1 }

/-- The settings with a batch size of at least one. -/
def withBatchSize (config : ElectrumConfig) (batchSize : UInt64) : ElectrumConfig :=
  { config with batchSize := max batchSize 1 }

end ElectrumConfig

end WalletBridge
