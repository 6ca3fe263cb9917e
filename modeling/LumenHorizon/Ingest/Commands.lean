import LumenHorizon.Ingest.Recovery

/-! # Ingest commands running side by side

The commands an operator or a schedule can start, and the pool of their runs: any number of
them, interleaved call by call, over one pair of tables.
-/

namespace LumenHorizon.Ingest
open Foundation Shared

/-- One run of the ingest service: a pass over granules, a recovery, or a replay. -/
inductive Command where
  | ingest (config : IngestConfig) (granules : List GranuleCandidate)
  | recovery (config : IngestConfig)
  | replay (config : IngestConfig) (ingestId : Uuid)

def Command.program : Command → IngestProgram Unit
  | ingest config granules => do
    let _ ← ingestGranules config granules (IngestSummary.new granules.length)
  | recovery config => do
    let _ ← runRecovery config
  | replay config ingestId => do
    let _ ← replayRejectedGranule config ingestId

abbrev IngestPool := Pool IngestWorld IngestCall IngestCall.Reply

abbrev IngestEvent := PoolEvent IngestCall IngestCall.Reply Env

namespace IngestPool

/-- No command has run yet. -/
def empty : IngestPool where
  world := { tables := { ingestLog := [], outbox := [] }, nextId := 0, queues := [] }
  procs := []

def step : IngestPool → IngestEvent → Option IngestPool := Pool.step answer

def Starts (event : IngestEvent) : Prop :=
  ∀ p, event = .spawn p → ∃ command : Command, p = command.program

end IngestPool

/-- A VNP46A2 granule of 21 May 2024 on tile h08v05. -/
def sampleGranule : GranuleCandidate where
  product := "VNP46A2"
  title := "VNP46A2.A2024142.h08v05.002.2024143000000.h5"
  producerGranuleId := "VNP46A2.A2024142.h08v05.002.2024143000000.h5"
  dataHref := "https://archive.example.test/VNP46A2.A2024142.h08v05.002.h5"
  granuleDate := { year := 2024, month := 5, day := 21, nanoOfDay := 0 }
  tile := { h := 8, v := 5 }

def sampleConfig : IngestConfig := { azureQueueName := "viirs-processing" }

/-- An environment in which a download returns a valid file, with the given outcome. -/
def sampleEnv (outcome : Outcome) : Env where
  outcome := outcome
  now := 0
  bytes := hdf5Magic
  dbError := { text := "connection reset" }
  storageError := .queueStatus "viirs-processing" { code := 503, text := "503 Service Unavailable" }
    ""
  earthdataError := .request "connection reset"

end LumenHorizon.Ingest
