import ClassSync.Basic
import ClassSync.Task
import ClassSync.Dechunker
import ClassSync.Pipe
import ClassSync.Matcher.Cursor
import ClassSync.Matcher.Stream
import ClassSync.Matcher.Run
import ClassSync.Matcher.Properties
import ClassSync.Matcher.Stage
import ClassSync.Expected
import ClassSync.Cancellation
import ClassSync.StreamChain
import ClassSync.Store
import ClassSync.VerifyHashes
import ClassSync.Pipeline
import ClassSync.Batch
