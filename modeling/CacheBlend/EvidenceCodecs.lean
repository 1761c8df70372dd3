import CacheBlend.BenchmarkCodec
import CacheBlend.LayerEvidence

/-!
# The three evidence codecs

A decoder accepts what the matching encoder writes and returns the value, and
whatever it accepts agrees with what the encoder writes for the value returned.
-/

set_option autoImplicit false

namespace CacheBlend.EvidenceCodecs
open CacheBlend.JsonValues CacheBlend.CorrectnessModels CacheBlend.CorrectnessCodec
open CacheBlend.BenchmarkModels CacheBlend.BenchmarkCodec
open CacheBlend.LayerEvidence

/-- The decoder accepts exactly the encoder's output, over values whose numbers
are finite. -/
def Faithful {ε α : Type} (encode : α → Except ε JsonValue) (decode : JsonValue → Except ε α) :
    Prop :=
  (∀ a, ∃ data, encode a = .ok data ∧ decode data = .ok a) ∧
    ∀ data a, FiniteNumbers data → decode data = .ok a →
      ∃ written, encode a = .ok written ∧ Agree data written

theorem evidence_codecs_faithful :
    Faithful (fun a => .ok (artifactToDict a)) (artifactFromDict exactly) ∧
    Faithful (fun e => .ok (transferEvidenceToDict e)) transferEvidenceFromDict ∧
    Faithful benchmarkArtifactToDict (benchmarkArtifactFromDict exactly) := by
  refine ⟨⟨fun a => ?_, fun data a hf h => ?_⟩, ⟨fun e => ?_, fun data e _ h => ?_⟩,
    ⟨fun a => ?_, fun data a _ h => ?_⟩⟩
  · exact ⟨_, rfl, artifactFromDict_written exactly a⟩
  · exact ⟨_, rfl, artifactToDict_agrees hf h⟩
  · exact ⟨_, rfl, transferEvidenceFromDict_written e⟩
  · exact ⟨_, rfl, transferEvidenceToDict_agrees h⟩
  · exact ⟨_, benchmarkArtifactToDict_ok a, benchmarkArtifactFromDict_written a⟩
  · exact ⟨_, benchmarkArtifactToDict_ok a, benchmarkArtifactToDict_agrees h⟩

end CacheBlend.EvidenceCodecs
