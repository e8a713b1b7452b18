import ImageImports.ContentHash
import ImageImports.Document
import ImageImports.Options.Decode
import ImageImports.Path.Normalize
import ImageImports.Proofs.Transform.Shape
import ImageImports.Proofs.Cache.Contents
import ImageImports.Proofs.Names.Fresh
import ImageImports.Proofs.Rewrite.Imports
import ImageImports.Proofs.Fetch.Answer
import ImageImports.Proofs.Source
import ImageImports.Proofs.Transform.Bindings
import ImageImports.Proofs.Transform.Failures
import ImageImports.Transform.Run
import ImageImports.Proofs.Cache.Steps
import ImageImports.Proofs.Cache.Turns
import ImageImports.Proofs.Cache.Concurrent
import ImageImports.Proofs.Transform.Turns
import ImageImports.Proofs.Transform.AllOrNothing
import ImageImports.Proofs.Rewrite.Names
import ImageImports.Proofs.Transform.Hygiene
import ImageImports.Proofs.Plan.Distinct
import ImageImports.Proofs.Transform.OncePerKey
import ImageImports.Proofs.Fetch.Attempts
import ImageImports.Proofs.Transform.AnyOrder
import ImageImports.Proofs.Cache.Entries
import ImageImports.Proofs.Transform.History
import ImageImports.Proofs.Transform.Idempotence
import ImageImports.Proofs.Path.Location
import ImageImports.Proofs.FileSystem.Location
import ImageImports.Proofs.Transform.Place
import ImageImports.Proofs.Source.Keys
import ImageImports.Proofs.Url.Spelling
import ImageImports.Proofs.Source.Endings
import ImageImports.Proofs.Cache.Kept
import ImageImports.Proofs.Transform.Rebuild
import ImageImports.Proofs.Fetch.RetryAfter
import ImageImports.Proofs.Fetch.Network
import ImageImports.Proofs.Transform.Deadline
import ImageImports.Proofs.Cache.Confined
import ImageImports.Proofs.FileSystem.Admitted
import ImageImports.Proofs.Cache.Room
import ImageImports.Proofs.Transform.Room
import ImageImports.Proofs.Cache.Public
import ImageImports.Proofs.Fetch.Budget
import ImageImports.Proofs.Plan.Renaming
import ImageImports.Proofs.Options.Decode
import ImageImports.Proofs.Names.Counted
