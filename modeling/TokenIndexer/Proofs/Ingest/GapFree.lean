import TokenIndexer.Proofs.Ingest.Reservation

namespace TokenIndexer.Ingestion

variable {σ : Type} [Store σ] [Store.Marked σ] {store : σ} {policy : Policy} {moves : List Move}
  {latest : Option Height}

end TokenIndexer.Ingestion
