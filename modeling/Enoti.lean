import Enoti.Interaction
import Enoti.Interleaving
import Enoti.Simulation
import Enoti.Suffix
import Enoti.Strconv
import Enoti.Redis
import Enoti.Dynamo
import Enoti.Types
import Enoti.Base64
import Enoti.Payload
import Enoti.DataStore
import Enoti.ClientStore
import Enoti.EdgeFlap
import Enoti.EdgeStep
import Enoti.Runs
import Enoti.EdgeDetection
import Enoti.FlapControl
import Enoti.RecentLog
import Enoti.Aggregate
import Enoti.Concurrent
import Enoti.RedisBackend
import Enoti.DdbBackend
import Enoti.ClientRegistry
import Enoti.Flow
import Enoti.Handler
import Enoti.Delivery
import Enoti.FrontEnd
import Enoti.PublishBound
import Enoti.DdbRefinement
import Enoti.KeySpace
import Enoti.RedisRefinement
import Enoti.DdbConcurrent
import Enoti.ConfigCache
import Enoti.SharedBackend
import Enoti.SqsBatch
import Enoti.Dedup
import Enoti.RedisShared
import Enoti.ClearAll
import Enoti.Suppress
import Enoti.DynamoControl
import Enoti.ForwardedFor
import Enoti.Backends
