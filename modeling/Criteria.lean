import Criteria.Builder
import Criteria.Collection
import Criteria.Proofs.Builder.LastSetting
import Criteria.Proofs.Builder.Meaning
import Criteria.Proofs.Builder.Typed
import Criteria.Proofs.Collection.Run
import Criteria.Proofs.Condition.Absence
import Criteria.Proofs.Condition.Agreement
import Criteria.Proofs.Condition.Branch
import Criteria.Proofs.Condition.DateTest
import Criteria.Proofs.Condition.Desugaring
import Criteria.Proofs.Condition.Erasure
import Criteria.Proofs.Condition.Extension
import Criteria.Proofs.Condition.KeyOrder
import Criteria.Proofs.Condition.Lenient
import Criteria.Proofs.Condition.SubDocument
import Criteria.Proofs.Sort.Direction
import Criteria.Proofs.Value.Range
import Criteria.Proofs.Value.Reflexivity
import Criteria.Proofs.Value.StoredDate
import Criteria.Proofs.Value.Width
import Criteria.Sort.Json
import Criteria.Value.Json
