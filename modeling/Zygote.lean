import Zygote.FileDescriptors.Capacity
import Zygote.FileDescriptors.Leftover
import Zygote.FileDescriptors.Listing
import Zygote.FileDescriptors.Once
import Zygote.FileDescriptors.Seeking
import Zygote.FileDescriptors.Shutdown
import Zygote.Launch
import Zygote.Limits
import Zygote.LittleEndian
import Zygote.Messages.Decode
import Zygote.Server.Application
import Zygote.Server.Detachment
import Zygote.Server.Isolation
import Zygote.Server.Notices
import Zygote.Server.Preload
import Zygote.Server.Signals
import Zygote.Server.Statistics
import Zygote.Server.Words
import Zygote.Species.AppZygote
import Zygote.WaitRecords
